import GovernanceIndex.Proofs.Sync.CycleOutcome
import GovernanceIndex.Proofs.Sync.Outlook

/-!
Stores that are alike: they hold the same records, apart from leases and from the times at which
records were made. Whatever syncs write at different times keeps stores alike, and so do replays.
-/
namespace GovernanceIndex

def EpochCheckpoint.untimed (c : EpochCheckpoint) : EpochCheckpoint :=
  { c with
    drepsSyncedAt := c.drepsSyncedAt.map fun _ => ⟨0, 0⟩
    totalsSyncedAt := c.totalsSyncedAt.map fun _ => ⟨0, 0⟩
    delegatorsSyncedAt := c.delegatorsSyncedAt.map fun _ => ⟨0, 0⟩ }

namespace EpochCheckpoint

theorem untimed_mark (c : EpochCheckpoint) (step : EpochStep) (now : Timestamp) :
    (c.mark step now).untimed = c.untimed.mark step ⟨0, 0⟩ := by
  rcases c with ⟨epoch, _ | _, _ | _, _ | _⟩ <;> cases step <;> rfl

theorem untimed_isDone (c : EpochCheckpoint) (step : EpochStep) :
    c.untimed.isDone step = c.isDone step := by
  rcases c with ⟨epoch, _ | _, _ | _, _ | _⟩ <;> cases step <;> rfl

theorem untimed_isComplete (c : EpochCheckpoint) (includeDelegators : Bool) :
    c.untimed.isComplete includeDelegators = c.isComplete includeDelegators := by
  unfold isComplete
  rw [untimed_isDone, untimed_isDone, untimed_isDone]

end EpochCheckpoint

namespace Store

def untimedCheckpoints (s : Store) : Table Epoch EpochCheckpoint :=
  ⟨s.checkpoints.entries.map fun e => (e.1, e.2.untimed)⟩

theorem untimedCheckpoints_get? (s : Store) (e : Epoch) :
    s.untimedCheckpoints.get? e = (s.checkpoints.get? e).map EpochCheckpoint.untimed :=
  Table.find?_map EpochCheckpoint.untimed e s.checkpoints.entries

theorem untimedCheckpoints_markStep (s : Store) (e : Epoch) (step : EpochStep) (now : Timestamp) :
    (s.markStep e step now).untimedCheckpoints = s.untimedCheckpoints.insert e
      (((s.untimedCheckpoints.get? e).getD { epoch := e }).mark step ⟨0, 0⟩) := by
  have hmarked : (((s.checkpoints.get? e).getD { epoch := e }).mark step now).untimed =
      ((s.untimedCheckpoints.get? e).getD { epoch := e }).mark step ⟨0, 0⟩ := by
    rw [EpochCheckpoint.untimed_mark, untimedCheckpoints_get?]
    rcases s.checkpoints.get? e with _ | p <;> rfl
  rw [← hmarked]
  exact congrArg Table.mk (Table.map_put EpochCheckpoint.untimed e _ s.checkpoints.entries)

theorem untimed_checkpointsBetween (s : Store) (first last : Epoch) :
    (s.checkpointsBetween first last).map EpochCheckpoint.untimed =
      (s.untimedCheckpoints.valuesBy Epoch.le).filter fun c =>
        first.le c.epoch && c.epoch.le last := by
  have hvalues : (s.checkpoints.valuesBy Epoch.le).map EpochCheckpoint.untimed =
      s.untimedCheckpoints.valuesBy Epoch.le := by
    unfold Table.valuesBy untimedCheckpoints
    have hsorted := List.map_mergeSort (l := s.checkpoints.entries)
      (f := fun e => (e.1, e.2.untimed)) (r := fun a b => a.1.le b.1) (s := fun a b => a.1.le b.1)
      fun _ _ _ _ => rfl
    dsimp only
    rw [← hsorted, List.map_map, List.map_map]
    rfl
  unfold checkpointsBetween
  rw [← hvalues, List.filter_map]
  rfl

/-- Two stores hold the same records, apart from leases and times. -/
structure Alike (s s' : Store) : Prop where
  checkpoints : s'.untimedCheckpoints = s.untimedCheckpoints
  snapshots : s'.snapshots = s.snapshots
  totals : s'.totals = s.totals
  summaries : ∀ key, s'.summaries.get? key = s.summaries.get? key
  states : s'.states = s.states
  changes : s'.changes.map DelegationChange.untimed = s.changes.map DelegationChange.untimed
  cursors : s'.cursors = s.cursors
  finishedBackfills : s'.finishedBackfills = s.finishedBackfills
  proposals : s'.proposals = s.proposals

instance : IsPreorder Store Alike where
  refl _ := ⟨rfl, rfl, rfl, fun _ => rfl, rfl, rfl, rfl, rfl, rfl⟩
  trans _ _ _ h h' := ⟨h'.checkpoints.trans h.checkpoints, h'.snapshots.trans h.snapshots,
    h'.totals.trans h.totals, fun key => (h'.summaries key).trans (h.summaries key),
    h'.states.trans h.states, h'.changes.trans h.changes, h'.cursors.trans h.cursors,
    h'.finishedBackfills.trans h.finishedBackfills, h'.proposals.trans h.proposals⟩

namespace Alike

variable {s s' t t' : Store}

theorem symm (h : s.Alike s') : s'.Alike s :=
  ⟨h.checkpoints.symm, h.snapshots.symm, h.totals.symm, fun key => (h.summaries key).symm,
    h.states.symm, h.changes.symm, h.cursors.symm, h.finishedBackfills.symm, h.proposals.symm⟩

theorem changes_length (h : s.Alike s') : s'.changes.length = s.changes.length := by
  have hlength := congrArg List.length h.changes
  rwa [List.length_map, List.length_map] at hlength

theorem of_sameData (h : s.SameData s') : s.Alike s' :=
  ⟨h.eq fun s => s.untimedCheckpoints, h.eq fun s => s.snapshots, h.eq fun s => s.totals,
    fun key => h.eq fun s => s.summaries.get? key, h.eq fun s => s.states,
    h.eq fun s => s.changes.map DelegationChange.untimed, h.eq fun s => s.cursors,
    h.eq fun s => s.finishedBackfills, h.eq fun s => s.proposals⟩

theorem applyChanges (h : s.Alike s') {cs cs' : List DelegationChange}
    (hcs : cs'.map DelegationChange.untimed = cs.map DelegationChange.untimed)
    (xs : List DelegationState) : (s.applyChanges cs xs).Alike (s'.applyChanges cs' xs) := by
  refine ⟨h.checkpoints, h.snapshots, h.totals, h.summaries, ?_, ?_, h.cursors,
    h.finishedBackfills, h.proposals⟩
  · change xs.foldl putState s'.states = xs.foldl putState s.states
    rw [h.states]
  · change (s'.changes ++ cs').map _ = (s.changes ++ cs).map _
    rw [List.map_append, List.map_append, h.changes, hcs]

theorem applyBackfill (h : s.Alike s') {cs cs' : List DelegationChange}
    (hcs : cs'.map DelegationChange.untimed = cs.map DelegationChange.untimed)
    (state : Option DelegationState) (cursor : BackfillCursor) :
    (s.applyBackfill cs state cursor).Alike (s'.applyBackfill cs' state cursor) := by
  have happlied := h.applyChanges hcs state.toList
  exact { happlied with cursors := congrArg (fun t => t.insert cursor.job cursor) happlied.cursors }

theorem clearCursor (h : s.Alike s') (job : String) :
    (s.clearCursor job).Alike (s'.clearCursor job) :=
  { h with cursors := congrArg (fun t => t.erase job) h.cursors }

theorem markBackfillDone (h : s.Alike s') (job : String) :
    (s.markBackfillDone job).Alike (s'.markBackfillDone job) :=
  { h with finishedBackfills := congrArg (List.insert job) h.finishedBackfills }

theorem putSnapshots (h : s.Alike s') (rows : List DelegateSnapshot) :
    (s.putSnapshots rows).Alike (s'.putSnapshots rows) := by
  refine { h with snapshots := ?_ }
  unfold Store.putSnapshots
  rw [h.snapshots]

theorem putTotals (h : s.Alike s') (row : EpochTotals) :
    (s.putTotals row).Alike (s'.putTotals row) :=
  { h with totals := congrArg (fun t => t.insert row.epoch row) h.totals }

theorem putSummaries (h : s.Alike s') (rows : List DelegatorSummary) :
    (s.putSummaries rows).Alike (s'.putSummaries rows) := by
  refine { h with summaries := fun key => ?_ }
  have hget (s : Store) : (s.putSummaries rows).summaries.get? key =
      (rows.filter fun r => (r.epoch, r.delegate) = key).getLast?.or (s.summaries.get? key) := by
    have hfold := Table.get?_foldl_insert (rows.map fun r => ((r.epoch, r.delegate), r))
      s.summaries key
    rw [List.foldl_map, List.filter_map, List.getLast?_map, Option.map_map] at hfold
    unfold Store.putSummaries
    rw [hfold]
    exact congrArg (fun last => Option.or last _) (Option.map_id_fun' ▸ rfl)
  rw [hget, hget, h.summaries key]

theorem markStep (h : s.Alike s') (e : Epoch) (step : EpochStep) (now now' : Timestamp) :
    (s.markStep e step now).Alike (s'.markStep e step now') := by
  refine { h with checkpoints := ?_ }
  rw [untimedCheckpoints_markStep, untimedCheckpoints_markStep, h.checkpoints]

end Alike

namespace Replays

variable {Served : StakeAddress → List DelegationUpdate → Prop} {now now' : Timestamp}
  {s s' t t' : Store} {done : List StakeAddress} {a : StakeAddress}

theorem of_nil (h : Replays Served now s [] t) : t = s := by
  generalize hnil : ([] : List StakeAddress) = done at h
  cases h with
  | nil => rfl
  | snoc h hus => simp at hnil

theorem of_snoc (h : Replays Served now s (done ++ [a]) t) : ∃ t₁ us, Replays Served now s done t₁ ∧
    Served a us ∧
    t = t₁.applyChanges (History.replay a us now).1 (History.replay a us now).2.toList := by
  generalize hsnoc : done ++ [a] = all at h
  cases h with
  | nil => simp at hsnoc
  | snoc h hus =>
    obtain ⟨rfl, hlast⟩ := List.append_inj' hsnoc rfl
    obtain rfl := List.singleton_injective hlast
    exact ⟨_, _, h, hus, rfl⟩

/-- Where every address has one history, replays from stores that are alike lead to such. -/
theorem alike (hserved : ∀ a us us', Served a us → Served a us' → us = us')
    (h : Replays Served now s done t) (h' : Replays Served now' s' done t') (hs : s.Alike s') :
    t.Alike t' := by
  induction h generalizing t' with
  | nil =>
    obtain rfl := h'.of_nil
    exact hs
  | @snoc done t a us h hus ih =>
    obtain ⟨t₁, us', hdone, hus', rfl⟩ := h'.of_snoc
    obtain rfl := hserved a us us' hus hus'
    exact (ih hdone).applyChanges (History.replay_untimed a us now' now) _

end Replays

end Store

end GovernanceIndex
