import GovernanceIndex.Proofs.Run.Outcomes
import GovernanceIndex.Proofs.Sync.CycleRegime
import GovernanceIndex.Proofs.Sync.LogOrder

/-!
The full backfill over many cycles. It is over when it is marked as finished; until then a cycle
goes on with it if it has a cursor, and begins it if no address has a state. The cursor is cleared
before the mark is set. So a backfill that was begun can be resumed after any cycle, unless the call
that sets the mark failed; and when that happened no later cycle takes the full backfill up again.
-/
namespace GovernanceIndex

namespace Store

/-- The full backfill is marked as finished. -/
def Finished (s : Store) : Prop := s.isBackfillDone fullBackfillJob = true

def Begun (s : Store) : Prop := (s.cursors.get? fullBackfillJob).isSome = true

def Blank (s : Store) : Prop := s.states.size = 0

/-- The full backfill is finished, or the next cycle takes it up. -/
def Resumable (s : Store) : Prop := s.Finished ∨ s.Begun ∨ s.Blank

instance (s : Store) : Decidable s.Finished := inferInstanceAs (Decidable (_ = true))

instance (s : Store) : Decidable s.Begun := inferInstanceAs (Decidable (_ = true))

instance (s : Store) : Decidable s.Blank := inferInstanceAs (Decidable (_ = 0))

instance (s : Store) : Decidable s.Resumable := inferInstanceAs (Decidable (_ ∨ _ ∨ _))

variable {s s' : Store}

theorem finished_iff (hs : SameData s s') : s'.Finished ↔ s.Finished := by
  unfold Finished
  rw [hs.eq fun s => s.isBackfillDone fullBackfillJob]

theorem begun_iff (hs : SameData s s') : s'.Begun ↔ s.Begun := by
  unfold Begun
  rw [hs.eq fun s => s.cursors]

theorem blank_iff (hs : SameData s s') : s'.Blank ↔ s.Blank := by
  unfold Blank
  rw [hs.eq fun s => s.states]

theorem not_resumable_iff : ¬ s.Resumable ↔ ¬ s.Finished ∧ ¬ s.Begun ∧ ¬ s.Blank := by
  unfold Resumable
  rw [not_or, not_or]

theorem Blank.get? (h : s.Blank) (a : StakeAddress) : s.states.get? a = none := by
  have hentries : s.states.entries = [] := List.length_eq_zero_iff.mp h
  unfold Table.get?
  rw [hentries]
  rfl

theorem applyChanges_not_blank (h : ¬ s.Blank) (cs : List DelegationChange)
    (xs : List DelegationState) : ¬ (s.applyChanges cs xs).Blank := by
  have hput (t : Table StakeAddress DelegationState) (ht : t.size ≠ 0) :
      (xs.foldl putState t).size ≠ 0 := by
    induction xs generalizing t with
    | nil => exact ht
    | cons x xs ih =>
      apply ih
      unfold putState Table.insert Table.size
      rcases t.entries with _ | ⟨e, es⟩
      · exact Nat.succ_ne_zero _
      · unfold Table.put
        split <;> exact Nat.succ_ne_zero _
  exact hput s.states h

/-- What a cycle keeps that does not take the full backfill up. -/
structure Incremental (I : Store → Prop) : Prop where
  sameData : ∀ s s', SameData s s' → I s → I s'
  applyChanges : ∀ s cs xs, I s → I (s.applyChanges cs xs)
  applyBackfill : ∀ s cs x (k : BackfillCursor), k.job = incrementalBackfillJob → I s →
    I (s.applyBackfill cs x k)
  clearCursor : ∀ s, I s → I (s.clearCursor incrementalBackfillJob)
  unneeded : ∀ s, I s → s.Finished ∨ ¬ s.Begun ∧ ¬ s.Blank

theorem finished_incremental : Incremental Finished where
  sameData _ _ hs := (finished_iff hs).mpr
  applyChanges _ _ _ h := h
  applyBackfill _ _ _ _ _ h := h
  clearCursor _ h := h
  unneeded _ h := .inl h

theorem incremental_ne_full : fullBackfillJob ≠ incrementalBackfillJob := by decide

theorem not_resumable_incremental : Incremental fun s => ¬ s.Resumable where
  sameData s s' hs h := by
    rw [not_resumable_iff] at h ⊢
    rw [finished_iff hs, begun_iff hs, blank_iff hs]
    exact h
  applyChanges s cs xs h := by
    rw [not_resumable_iff] at h ⊢
    obtain ⟨hfinished, hbegun, hblank⟩ := h
    exact ⟨hfinished, hbegun, applyChanges_not_blank hblank cs xs⟩
  applyBackfill s cs x k hk h := by
    rw [not_resumable_iff] at h ⊢
    obtain ⟨hfinished, hbegun, hblank⟩ := h
    refine ⟨hfinished, ?_, applyChanges_not_blank hblank cs x.toList⟩
    unfold Begun at hbegun ⊢
    unfold Store.applyBackfill
    rw [Table.get?_insert, if_neg (hk ▸ incremental_ne_full)]
    exact hbegun
  clearCursor s h := by
    rw [not_resumable_iff] at h ⊢
    obtain ⟨hfinished, hbegun, hblank⟩ := h
    refine ⟨hfinished, ?_, hblank⟩
    unfold Begun at hbegun ⊢
    unfold Store.clearCursor
    rw [Table.get?_erase, if_neg incremental_ne_full]
    exact hbegun
  unneeded _ h := .inr (not_resumable_iff.mp h).2

end Store

open Store (Finished Begun Blank Resumable Incremental)

namespace Run

variable {L : Type} [LedgerService L] {I : Store → Prop}

theorem Reads.incremental {α : Type} {m : Run L α} (hI : Incremental I) (h : Reads m) :
    Ensures I m (fun _ => I) I := h.ensures hI.sameData

omit [LedgerService L] in
theorem writeDifferences_ensures (hI : ∀ s cs xs, I s → I (s.applyChanges cs xs)) (c : Settings)
    (ds : List Difference) : Ensures I (writeDifferences c ds : Run L Unit) (fun _ => I) I := by
  unfold writeDifferences
  induction batches c.writeBatchSize ds with
  | nil => exact Ensures.pure fun _ => id
  | cons batch rest ih =>
    unfold List.forM
    apply Ensures.bind (Q := fun _ => I) _ fun _ => ih
    exact Ensures.callTo (fun _ => rfl) (fun s hs => hI s _ _ hs) fun _ => id

omit [LedgerService L] in
theorem backfillBatch_incremental (hI : Incremental I) (total : UInt64)
    (histories : Table StakeAddress (List DelegationUpdate)) (before : UInt64) (b : Backfill)
    (addresses : List StakeAddress) :
    Ensures I (backfillBatch incrementalBackfillJob total histories before b addresses :
      Run L Backfill) (fun _ => I) I := by
  induction addresses generalizing before b with
  | nil => exact Ensures.pure fun _ => id
  | cons a rest ih =>
    unfold backfillBatch
    apply Ensures.getBind
    intro w
    apply Ensures.bind (Q := fun _ => I) _ fun _ => ih _ _
    exact Ensures.callTo (fun _ => rfl) (fun s hs => hI.applyBackfill s _ _ _ rfl hs) fun _ => id

theorem backfill_incremental (hI : Incremental I) (c : Settings) (addresses : List StakeAddress)
    (cursor : Option BackfillCursor) :
    Ensures I (backfill c incrementalBackfillJob addresses cursor : Run L Backfill)
      (fun _ => I) I := by
  have hbatches (total before : UInt64) (b : Backfill) (batches : List (List StakeAddress)) :
      Ensures I (backfillBatches c incrementalBackfillJob total before b batches :
        Run L Backfill) (fun _ => I) I := by
    induction batches generalizing before b with
    | nil => exact Ensures.pure fun _ => id
    | cons batch rest ih =>
      unfold backfillBatches
      apply Ensures.bind ((Reads.quotaIsLow c).incremental hI)
      intro low
      split
      · exact Ensures.pure fun _ => id
      · apply Ensures.bind ((Passes.request c _).reads.incremental hI)
        intro histories
        apply Ensures.bind (backfillBatch_incremental hI total _ before b batch)
        exact fun b' => ih _ b'
  unfold backfill
  dsimp only
  split
  · exact Triple.throw fun _ => id
  · apply Ensures.bind (hbatches _ _ _ _)
    intro b
    split
    · apply Ensures.bind (Q := fun _ => I)
      · exact Ensures.callTo (fun _ => rfl) (fun s hs => hI.clearCursor s hs) fun _ => id
      · intro _
        rw [if_neg (Ne.symm Store.incremental_ne_full)]
        exact Ensures.pure fun _ => id
    · exact Ensures.pure fun _ => id

omit [LedgerService L] in
/-- The full backfill is taken up just if it can be resumed and is not finished: that is what the
reads of a store come to whose data is that of `s₀` throughout, as `H` says. -/
theorem fullBackfill_outcome {H : World L → Prop} {E : Halt → World L → Prop} {s₀ : Store}
    (hread : ∀ (k : StoreCall) (g : Store → k.Result),
      (∀ s : Store, s.perform k = .ok (g s, s)) → (∀ s : Store, g s.data = g s) →
      Outcomes H (call k : Run L k.Result) (fun r w => r = g s₀ ∧ H w) E) :
    Outcomes H (fullBackfill : Run L (Bool × Option BackfillCursor))
      (fun r w => (r.2 = s₀.cursors.get? fullBackfillJob ∧
        (r.1 = true ↔ ¬ s₀.Finished ∧ (s₀.Begun ∨ s₀.Blank))) ∧ H w) E := by
  unfold fullBackfill
  apply Outcomes.bind (hread (.isBackfillDone fullBackfillJob) _ (fun _ => rfl) fun _ => rfl)
  intro isDone
  apply Outcomes.assuming
  rintro rfl
  apply Outcomes.bind (hread (.cursor fullBackfillJob) _ (fun _ => rfl) fun _ => rfl)
  intro cursor
  apply Outcomes.assuming
  rintro rfl
  split
  · next hdone =>
    have hnot : ¬ (¬ s₀.Finished ∧ (s₀.Begun ∨ s₀.Blank)) := fun h => h.1 hdone
    exact Outcomes.pure fun w hw => ⟨⟨rfl, iff_of_false Bool.false_ne_true hnot⟩, hw⟩
  · next hdone =>
    split
    · next hcursor =>
      exact Outcomes.pure fun w hw => ⟨⟨rfl, iff_of_true rfl ⟨hdone, .inl hcursor⟩⟩, hw⟩
    · next hcursor =>
      apply Outcomes.bind (hread .stateCount _ (fun _ => rfl) fun _ => rfl)
      intro count
      apply Outcomes.assuming
      rintro rfl
      refine Outcomes.pure fun w hw => ⟨⟨rfl, ?_⟩, hw⟩
      simp [Finished, Begun, Blank, hdone, hcursor]

omit [LedgerService L] in
theorem fullBackfill_ensures {P : Store → Prop} :
    Ensures P (fullBackfill : Run L (Bool × Option BackfillCursor))
      (fun r s => P s ∧ (r.1 = true ↔ ¬ s.Finished ∧ (s.Begun ∨ s.Blank))) P := by
  apply Ensures.naming
  intro s₀ hs₀
  have hread (k : StoreCall) (g : Store → k.Result)
      (hk : ∀ s : Store, s.perform k = .ok (g s, s)) (_ : ∀ s : Store, g s.data = g s) :
      Ensures (fun s => s = s₀) (call k : Run L k.Result) (fun r s => r = g s₀ ∧ s = s₀) P :=
    Ensures.callTo hk (fun s hs => ⟨congrArg g hs, hs⟩) fun s hs => hs ▸ hs₀
  apply Triple.post (Outcomes.triple_iff.mpr (fullBackfill_outcome hread))
  rintro r w ⟨⟨-, hneeded⟩, rfl⟩
  exact ⟨hs₀, hneeded⟩

theorem backfillNew_incremental (hI : Incremental I) (c : Settings)
    (addresses : List StakeAddress) :
    Ensures I (backfillNew c addresses : Run L (Bool × Backfill))
      (fun r s => r.1 = false ∧ I s) I := by
  unfold backfillNew
  apply Ensures.bind fullBackfill_ensures
  rintro ⟨full, cursor⟩
  dsimp only
  split
  · next hfull =>
    -- The full backfill would have been needed.
    intro w hw
    obtain ⟨hs, hneeded⟩ := hw
    obtain ⟨hnot, hneed⟩ := hneeded.mp hfull
    rcases hI.unneeded _ hs with hfinished | ⟨hbegun, hblank⟩
    · exact absurd hfinished hnot
    · exact absurd hneed (not_or.mpr ⟨hbegun, hblank⟩)
  · split
    · exact Ensures.pure fun s hs => ⟨rfl, hs.1⟩
    · apply Ensures.bind (Q := fun _ => I)
      · exact (((Passes.call rfl).reads).incremental hI).pre fun _ hs => hs.1
      · intro cursor
        apply Ensures.bind (backfill_incremental hI c addresses cursor)
        exact fun b => Ensures.pure fun s hs => ⟨rfl, hs⟩

theorem Reads.backfilledStates (b : Backfill) :
    Reads (Run.backfilledStates b : Run L (Table StakeAddress DelegationState)) := by
  unfold Run.backfilledStates
  split
  · exact Shifts.pure _
  · exact (Passes.call rfl).reads

theorem syncDelegations_incremental (hI : Incremental I) (c : Settings) :
    Ensures I (syncDelegations c : Run L DelegationsReport)
      (fun report s => report.fullBackfill = false ∧ I s) I := by
  rw [syncDelegations_eq]
  apply Ensures.bind ((Reads.observe c).incremental hI)
  intro (epoch, found)
  unfold reconcile
  dsimp only
  apply Ensures.bind ((Passes.call rfl).reads.incremental hI)
  intro stored
  apply Ensures.bind (backfillNew_incremental hI c _)
  rintro ⟨full, b⟩
  apply Ensures.assuming
  rintro rfl
  dsimp only
  apply Ensures.bind ((Reads.backfilledStates b).incremental hI)
  intro backfilled
  apply Ensures.getBind
  intro w
  apply Ensures.bind (writeDifferences_ensures hI.applyChanges c _)
  exact fun _ => Ensures.pure fun s hs => ⟨rfl, hs⟩

/-- The full backfill has a cursor, or nothing was done for it yet; `d` stands for what was known of
a store without states. -/
def Advanced (d : Prop) (b : Backfill) (s : Store) : Prop :=
  s.Begun ∨ d ∧ s.Blank ∧ b.processed = []

variable {d : Prop}

theorem Advanced.resumable {b : Backfill} {s : Store} (h : Advanced d b s) : s.Resumable :=
  .inr (h.imp_right fun hblank => hblank.2.1)

theorem Advanced.sameData {b : Backfill} {s s' : Store} (hs : Store.SameData s s')
    (h : Advanced d b s) : Advanced d b s' := by
  unfold Advanced at h ⊢
  rw [Store.begun_iff hs, Store.blank_iff hs]
  exact h

omit [LedgerService L] in
theorem backfillBatch_advanced (d : Prop) (total : UInt64)
    (histories : Table StakeAddress (List DelegationUpdate)) (before : UInt64) (b : Backfill)
    (addresses : List StakeAddress) :
    Ensures (Advanced d b)
      (backfillBatch fullBackfillJob total histories before b addresses : Run L Backfill)
      (fun b' s => (b'.processed = b.processed ++ addresses ∧ b'.skipped = b.skipped) ∧
        Advanced d b' s) Resumable := by
  induction addresses generalizing before b with
  | nil => exact Ensures.pure fun s hs => ⟨⟨(List.append_nil b.processed).symm, rfl⟩, hs⟩
  | cons a rest ih =>
    have hsplit : b.processed ++ a :: rest = (b.processed ++ [a]) ++ rest := by simp
    rw [hsplit]
    unfold backfillBatch
    apply Ensures.getBind
    intro w
    apply Ensures.bind (Q := fun _ s => s.Begun)
    · apply Ensures.callTo fun _ => rfl
      · intro s _
        unfold Begun Store.applyBackfill
        rw [Table.get?_insert, if_pos rfl]
        rfl
      · exact fun s hs => hs.resumable
    · intro _
      exact (ih (before + 1) { b with processed := b.processed ++ [a], changes := _ }).pre
        fun s hs => .inl hs

theorem backfillBatches_advanced (d : Prop) (c : Settings) (total before : UInt64) (b : Backfill)
    (batches : List (List StakeAddress)) (hskipped : b.skipped = []) :
    Ensures (Advanced d b)
      (backfillBatches c fullBackfillJob total before b batches : Run L Backfill)
      (fun b' s => b'.processed ++ b'.skipped = b.processed ++ batches.flatten ∧ Advanced d b' s)
      Resumable := by
  have hread {α : Type} {m : Run L α} (b : Backfill) (h : Reads m) :
      Ensures (Advanced d b) m (fun _ => Advanced d b) Resumable :=
    (h.ensures fun _ _ => Advanced.sameData).mono (fun _ => id) (fun _ _ => id)
      fun _ => Advanced.resumable
  induction batches generalizing before b with
  | nil => exact Ensures.pure fun s hs => ⟨by rw [hskipped, List.flatten_nil], hs⟩
  | cons batch rest ih =>
    unfold backfillBatches
    apply Ensures.bind (hread b (Reads.quotaIsLow c))
    intro low
    split
    · exact Ensures.pure fun s hs => ⟨rfl, hs⟩
    · apply Ensures.bind (hread b (Passes.request c _).reads)
      intro histories
      apply Ensures.bind (backfillBatch_advanced d total _ before b batch)
      intro b'
      apply Ensures.assuming
      rintro ⟨hprocessed, hsame⟩
      rw [List.flatten_cons, ← List.append_assoc, ← hprocessed]
      exact ih _ b' (hsame.trans hskipped)

end Run

/-- No fault meets the next call that marks a backfill as finished. -/
def World.MarkSucceeds {L : Type} (w : World L) : Prop :=
  (w.takeFault .markBackfillDone).1 = none

theorem World.MarkSucceeds.of_faults {L : Type} {w w' : World L} (h : w.MarkSucceeds)
    (hfaults : w'.faults.get? .markBackfillDone = w.faults.get? .markBackfillDone) :
    w'.MarkSucceeds := (World.takeFault_congr hfaults).trans h

theorem World.MarkSucceeds.call {L : Type} {w : World L} (h : w.MarkSucceeds) {c : StoreCall}
    (hc : c.method ≠ .markBackfillDone) : (w.call c).2.MarkSucceeds :=
  h.of_faults (w.call_faults hc)

/-- Until the mark is set, the call that sets it goes on to succeed if it does at the start, which
`m` stands for. -/
def markRegime {L : Type} [LedgerService L] (m : Prop) : Regime L where
  permits _ := True
  answers _ _ := True
  holds w := m → w.MarkSucceeds
  halts _ := True
  ask _ _ _ hw := ⟨fun h => (hw h).of_faults rfl, by split <;> trivial⟩
  read _ c hc hw := ⟨fun h => (hw h).call (by cases c <;> cases hc <;> nofun), fun _ _ => trivial⟩
  renew _ _ _ hw h := (hw h).call nofun
  tick _ _ _ hw h := (hw h).of_faults rfl
  late _ _ _ := trivial
  tip _ e _ _ := ⟨⟨e, none, none⟩, trivial, rfl⟩
  remember _ _ _ hw h := (hw h).of_faults rfl

namespace Run

variable {L : Type} [LedgerService L] {m d : Prop}

theorem markRegime_call (m : Prop) {c : StoreCall} (hc : c.method ≠ .markBackfillDone) :
    (markRegime m).Runs (Run.call c : Run L c.Result) fun _ => True := by
  apply Regime.call
  intro w hw
  refine ⟨fun h => (hw h).call hc, ?_⟩
  split <;> trivial

theorem markRegime_observing (m : Prop) : (markRegime m : Regime L).GrantsObserving where
  tip := trivial
  delegates _ := trivial
  infos _ := trivial
  powers _ _ := trivial
  delegators _ _ := trivial
  remember _ _ _ hw h := (hw h).of_faults rfl
  early _ := trivial

theorem markBackfillDone_triple (m : Prop) (now : Timestamp) :
    Triple (markRegime m).holds (call (.markBackfillDone fullBackfillJob now) : Run L Unit)
      (fun _ w => w.store.Finished) (fun w => m → w.store.Resumable) := by
  intro w hw
  rw [call_eq]
  rcases w.call_cases (.markBackfillDone fullBackfillJob now) with
    ⟨r, w', hr, hp⟩ | ⟨cause, w', hr, -⟩ <;> rw [hr]
  · have hstore : w'.store = w.store.markBackfillDone fullBackfillJob :=
      (congrArg Prod.snd (Except.ok.inj hp)).symm
    dsimp only
    rw [hstore]
    simp [Finished, Store.isBackfillDone, Store.markBackfillDone]
  · intro h
    have hanswer := World.call_answer (c := .markBackfillDone fullBackfillJob now) (hw h)
    rw [hr] at hanswer
    cases hanswer

/-- A full backfill that leaves no address out is finished behind it; one that leaves some out has a
cursor unless it did nothing. -/
theorem backfill_full (m : Prop) (c : Settings) (addresses : List StakeAddress)
    (cursor : Option BackfillCursor) :
    Triple (fun w => (markRegime m).holds w ∧ (w.store.Begun ∨ d ∧ w.store.Blank))
      (backfill c fullBackfillJob addresses cursor : Run L Backfill)
      (fun b w => b.processed ++ b.skipped = addresses ∧
        (b.skipped = [] → w.store.Finished) ∧ (w.store.Finished ∨ Advanced d b w.store))
      (fun w => m → w.store.Resumable) := by
  unfold backfill
  dsimp only
  split
  · exact Triple.throw fun w hw _ => .inr (hw.2.imp_right And.right)
  · next total _ =>
    have hbatches := (Regime.backfillBatches (r := markRegime (L := L) m) (fun _ => trivial)
      (fun _ _ _ => markRegime_call m nofun) c fullBackfillJob total
      ((cursor.map fun k => k.processed).getD 0) {} (batches c.historyBatchSize addresses)).ensures
      (backfillBatches_advanced d c total _ {} _ rfl)
    have hstart (w : World L)
        (hw : (markRegime m).holds w ∧ (w.store.Begun ∨ d ∧ w.store.Blank)) :
        (markRegime m).holds w ∧ Advanced d {} w.store :=
      ⟨hw.1, hw.2.imp_right fun h => ⟨h.1, h.2, rfl⟩⟩
    apply Triple.bind (hbatches.mono hstart (fun _ _ => id) fun w hw _ => hw)
    intro b
    refine Triple.pre (P := fun w => b.processed ++ b.skipped = addresses ∧
      (markRegime m).holds w ∧ Advanced d b w.store) (Triple.assuming fun hall => ?_)
      fun w hw => ⟨hw.1.2.1.trans (batches_flatten _ _), hw.2, hw.1.2.2⟩
    split
    · have hclear := (markRegime_call (L := L) m (c := .clearCursor fullBackfillJob) nofun).ensures
        (Ensures.callTo (P := Advanced d b) (Q := fun _ _ => True) (fun _ => rfl)
          (fun _ _ => trivial) fun _ => Advanced.resumable)
      apply Triple.bind (hclear.mono (fun _ => id) (fun _ _ hw => hw.2) fun w hw _ => hw)
      intro _
      rw [if_pos rfl]
      apply Triple.getBind
      intro w
      apply Triple.bind ((markBackfillDone_triple m w.now).pre fun _ hw => hw.2)
      intro _
      exact Triple.pure fun w hw => ⟨hall, fun _ => hw, .inl hw⟩
    · next hsome =>
      refine Triple.pure fun w hw => ⟨hall, fun h => ?_, .inr hw.2⟩
      exact absurd (List.isEmpty_iff.mpr h) hsome

/-- What a store has before a full backfill is taken up. -/
def Taken (d : Prop) (s : Store) : Prop := ¬ s.Finished ∧ (s.Begun ∨ d ∧ s.Blank)

theorem Taken.resumable {s : Store} (h : Taken d s) : s.Resumable := .inr (h.2.imp_right And.right)

theorem Taken.sameData {s s' : Store} (hs : Store.SameData s s') (h : Taken d s) : Taken d s' := by
  unfold Taken at h ⊢
  rw [Store.finished_iff hs, Store.begun_iff hs, Store.blank_iff hs]
  exact h

theorem backfillNew_full (m d : Prop) (c : Settings) (addresses : List StakeAddress) :
    Triple (fun w => (markRegime m).holds w ∧ Taken d w.store)
      (backfillNew c addresses : Run L (Bool × Backfill))
      (fun r w => (r.1 = true ∧ r.2.processed ++ r.2.skipped = addresses) ∧
        (r.2.skipped = [] → w.store.Finished) ∧ (w.store.Finished ∨ Advanced d r.2 w.store))
      (fun w => m → w.store.Resumable) := by
  have hfull := (markRegime (L := L) m).fullBackfill.ensures (fullBackfill_ensures (P := Taken d))
  apply Triple.bind (hfull.mono (fun _ => id) (fun _ _ => id) fun w hw _ => hw.resumable)
  rintro ⟨full, cursor⟩
  refine Triple.pre (P := fun w => full = true ∧ (markRegime m).holds w ∧
    (w.store.Begun ∨ d ∧ w.store.Blank)) (Triple.assuming ?_) ?_
  · rintro rfl
    dsimp only
    rw [if_pos rfl]
    apply Triple.bind (backfill_full m c addresses cursor)
    exact fun b => Triple.pure fun w hw => ⟨⟨rfl, hw.1⟩, hw.2⟩
  · rintro w ⟨⟨-, hs, hfull⟩, hholds⟩
    exact ⟨hfull.mpr ⟨hs.1, hs.2.imp_right And.right⟩, hholds, hs.2⟩

omit [LedgerService L] in
theorem writeDifferences_advanced (c : Settings) (p : Prop) (ds : List Difference) :
    Ensures (fun s => (p → s.Finished) ∧ (s.Finished ∨ s.Begun ∨ ds = [] ∧ s.Blank))
      (writeDifferences c ds : Run L Unit) (fun _ s => (p → s.Finished) ∧ s.Resumable)
      (fun s => (p → s.Finished) ∧ s.Resumable) := by
  rcases ds with _ | ⟨x, ds⟩
  · exact Ensures.pure fun s hs => ⟨hs.1, hs.2.imp_right (Or.imp_right And.right)⟩
  · have hkept := writeDifferences_ensures (L := L)
      (I := fun s => (p → s.Finished) ∧ (s.Finished ∨ s.Begun)) (fun _ _ _ hs => hs) c (x :: ds)
    refine hkept.mono (fun s hs => ⟨hs.1, ?_⟩)
      (fun _ s hs => ⟨hs.1, hs.2.imp_right Or.inl⟩) fun s hs => ⟨hs.1, hs.2.imp_right Or.inl⟩
    rcases hs.2 with hfinished | hbegun | ⟨hnil, -⟩
    · exact .inl hfinished
    · exact .inr hbegun
    · cases hnil

theorem Difference.all_eq_nil {epoch : Epoch} {now : Timestamp}
    {stored : StakeAddress → Option DelegationState} {skipped : List StakeAddress}
    {observed : List (StakeAddress × Observation)} (h : ∀ x ∈ observed, x.1 ∈ skipped) :
    Difference.all epoch now stored skipped observed = [] := by
  unfold Difference.all
  rw [List.filterMap_eq_nil_iff]
  intro x hx
  exact if_pos (List.contains_iff_mem.mpr (h x hx))

omit [LedgerService L] in
theorem states_taken (addresses : List StakeAddress) :
    Ensures (Taken True)
      (call (.states addresses) : Run L (Table StakeAddress DelegationState))
      (fun stored s => Taken (∀ a, stored.get? a = none) s) Resumable := by
  apply Ensures.callTo fun _ => rfl
  · rintro s ⟨hfinished, hneeded⟩
    refine ⟨hfinished, hneeded.imp_right fun hblank => ⟨fun a => ?_, hblank.2⟩⟩
    rw [Store.statesOf_get?, hblank.2.get?, ite_self]
  · exact fun _ => Taken.resumable

/-- The second part of a cycle that takes the full backfill up leaves it resumable, unless the call
that sets the mark fails; and if it ends having skipped no address, the full backfill is
finished. -/
theorem reconcile_full (m : Prop) (c : Settings) (epoch : Epoch) (found : List Found) :
    Triple (fun w => (markRegime m).holds w ∧ Taken True w.store)
      (reconcile c epoch found : Run L DelegationsReport)
      (fun report w => report.fullBackfill = true ∧
        (report.backfillSkipped = 0 → w.store.Finished) ∧ w.store.Resumable)
      (fun w => m → w.store.Resumable) := by
  unfold reconcile
  dsimp only
  generalize Observation.latest (Observation.reports found) = observed
  have hstates := ((markRegime (L := L) m).readCall rfl).ensures
    (states_taken (observed.map Prod.fst))
  apply Triple.bind (hstates.mono (fun _ => id) (fun _ _ hw => And.intro hw.2 hw.1.2)
    fun w hw _ => hw)
  intro stored
  apply Triple.bind (backfillNew_full m (∀ a, stored.get? a = none) c _)
  rintro ⟨full, b⟩
  apply Triple.assuming
  rintro ⟨rfl, hall⟩
  dsimp only at hall ⊢
  -- From here on no call can take the cursor or the mark away.
  let P : Store → Prop := fun s => (b.skipped = [] → s.Finished) ∧
    (s.Finished ∨ Advanced (∀ a, stored.get? a = none) b s)
  have hP (s s' : Store) (hs : Store.SameData s s') (h : P s) : P s' := by
    refine ⟨fun hb => (Store.finished_iff hs).mpr (h.1 hb), h.2.imp ?_ (Advanced.sameData hs)⟩
    exact (Store.finished_iff hs).mpr
  have hE (s : Store) (h : P s) : m → s.Resumable := fun _ => h.2.elim .inl Advanced.resumable
  change Ensures P _ (fun (report : DelegationsReport) s => report.fullBackfill = true ∧
    (report.backfillSkipped = 0 → s.Finished) ∧ s.Resumable) (fun s => m → s.Resumable)
  apply Ensures.bind (((Reads.backfilledStates b).ensures hP).mono (fun _ => id) (fun _ _ => id) hE)
  intro backfilled
  apply Ensures.getBind
  intro w
  have hwrite := writeDifferences_advanced (L := L) c (b.skipped = []) (Difference.all epoch w.now
    (fun a => (backfilled.get? a).or (stored.get? a)) b.skipped observed)
  apply Ensures.bind (hwrite.mono (fun s hs => ⟨hs.1, ?_⟩) (fun _ _ => id) fun _ hs _ => hs.2)
  · intro _
    refine Ensures.pure fun s hs => ⟨rfl, fun hskipped => hs.1 ?_, hs.2⟩
    exact List.length_eq_zero_iff.mp hskipped
  · rcases hs.2 with hfinished | hbegun | ⟨hnone, hblank, hprocessed⟩
    · exact .inl hfinished
    · exact .inr (.inl hbegun)
    · refine .inr (.inr ⟨Difference.all_eq_nil fun x hx => ?_, hblank⟩)
      rw [hprocessed, List.nil_append] at hall
      rw [hall, List.mem_filter]
      exact ⟨List.mem_map_of_mem hx, by rw [hnone]; rfl⟩

theorem syncDelegations_full (m : Prop) (c : Settings) :
    Triple (fun w => (markRegime m).holds w ∧ Taken True w.store)
      (syncDelegations c : Run L DelegationsReport)
      (fun report w => report.fullBackfill = true ∧
        (report.backfillSkipped = 0 → w.store.Finished) ∧ w.store.Resumable)
      (fun w => m → w.store.Resumable) := by
  rw [syncDelegations_eq]
  have hobserve := (Regime.observe (markRegime_observing (L := L) m) c).ensures
    ((Reads.observe c).ensures fun _ _ => Taken.sameData (d := True))
  apply Triple.bind (hobserve.mono (fun _ => id) (fun _ _ hw => And.intro hw.2 hw.1.2)
    fun w hw _ => hw.resumable)
  exact fun o => reconcile_full m c o.1 o.2

end Run

namespace DelegationCycle

variable {L : Type} [LedgerService L] {s : Store}

open Run (Taken)

theorem taken_iff : Taken True s ↔ ¬ s.Finished ∧ s.Resumable := by
  unfold Taken Store.Resumable
  by_cases hs : s.Finished <;> simp [hs]

theorem run_resumable (k : DelegationCycle L) (hk : k.world.MarkSucceeds) (hs : s.Resumable) :
    (k.run s).Resumable := by
  by_cases hfinished : s.Finished
  · have hcycle := Run.syncDelegations_incremental (L := L) Store.finished_incremental k.settings
    have hkept := hcycle.mono (fun _ => id) (fun _ _ h => h.2) fun _ => id
    exact .inl (hkept.storeAfter k.world hfinished)
  · have hcycle := Run.syncDelegations_full (L := L) True k.settings
    have hkept := hcycle.mono (fun _ => id) (fun _ _ h => h.2.2) fun w h => h trivial
    exact hkept.final (w := k.world.withStore s)
      ⟨fun _ => hk.of_faults rfl, taken_iff.mpr ⟨hfinished, hs⟩⟩

theorem runAll_resumable (ks : List (DelegationCycle L)) (hks : ∀ k ∈ ks, k.world.MarkSucceeds) :
    (runAll ks).Resumable := by
  have hrun (s : Store) (hs : s.Resumable) : (ks.foldl (fun s k => k.run s) s).Resumable := by
    induction ks generalizing s with
    | nil => exact hs
    | cons k ks ih =>
      obtain ⟨hk, hks⟩ := List.forall_mem_cons.mp hks
      exact ih hks (k.run s) (k.run_resumable hk hs)
  exact hrun {} (.inr (.inr rfl))

/-- A cycle that ends ran the full backfill just if it is resumable and not finished, and finished
it if no address was skipped. -/
theorem report_fullBackfill (k : DelegationCycle L) {report : DelegationsReport} {w' : World L}
    (h : Run.syncDelegations k.settings (k.world.withStore s) = (.ok report, w')) :
    (report.fullBackfill = true ↔ ¬ s.Finished ∧ s.Resumable) ∧
      (report.fullBackfill = true → report.backfillSkipped = 0 → w'.store.Finished) := by
  by_cases hneeded : ¬ s.Finished ∧ s.Resumable
  · have hcycle := Run.syncDelegations_full (L := L) False k.settings
    obtain ⟨hfull, hfinished, -⟩ :=
      hcycle.ok (w := k.world.withStore s) ⟨nofun, taken_iff.mpr hneeded⟩ h
    exact ⟨iff_of_true hfull hneeded, fun _ => hfinished⟩
  · have hidle : report.fullBackfill = false := by
      by_cases hfinished : s.Finished
      · have hcycle := Run.syncDelegations_incremental (L := L) Store.finished_incremental k.settings
        exact (Run.Triple.ok hcycle (w := k.world.withStore s) hfinished h).1
      · have hs : ¬ s.Resumable := fun hs => hneeded ⟨hfinished, hs⟩
        have hcycle := Run.syncDelegations_incremental (L := L) Store.not_resumable_incremental
          k.settings
        exact (Run.Triple.ok hcycle (w := k.world.withStore s) hs h).1
    rw [hidle]
    exact ⟨iff_of_false Bool.false_ne_true hneeded, nofun⟩

/-- Behind cycles in which the mark could be set whenever that was tried, a full backfill that is
not finished has a cursor unless no address has a state. So the next cycle that ends runs it, and
finishes it if no address is skipped. A backfill that cannot be resumed never can be again. -/
theorem fullBackfill_resumable (ks : List (DelegationCycle L)) (next : DelegationCycle L) :
    let s := runAll ks
    ((∀ k ∈ ks, k.world.MarkSucceeds) → ¬ s.isBackfillDone fullBackfillJob → 0 < s.states.size →
      (s.cursors.get? fullBackfillJob).isSome) ∧
    (∀ report w', Run.syncDelegations next.settings (next.world.withStore s) = (.ok report, w') →
      (report.fullBackfill = true ↔ ¬ s.isBackfillDone fullBackfillJob ∧
        (0 < s.states.size → (s.cursors.get? fullBackfillJob).isSome)) ∧
      (report.fullBackfill = true → report.backfillSkipped = 0 →
        w'.store.isBackfillDone fullBackfillJob)) ∧
    (¬ s.Resumable → ¬ (next.run s).Resumable) := by
  intro s
  have hiff : ¬ s.Finished ∧ s.Resumable ↔ ¬ s.Finished ∧ (0 < s.states.size → s.Begun) := by
    apply and_congr_right
    intro hfinished
    unfold Store.Resumable Store.Blank
    rw [or_iff_right hfinished, or_comm, Nat.pos_iff_ne_zero, or_iff_not_imp_left]
  refine ⟨fun hks hfinished => ?_, fun report w' h => ?_, fun hs => ?_⟩
  · exact (hiff.mp ⟨hfinished, runAll_resumable ks hks⟩).2
  · obtain ⟨hfull, hfinishes⟩ := next.report_fullBackfill h
    exact ⟨hfull.trans hiff, hfinishes⟩
  · have hcycle := Run.syncDelegations_incremental (L := L) Store.not_resumable_incremental
      next.settings
    exact (hcycle.post fun _ _ h => h.2).storeAfter next.world hs

/-- A cycle that observes an address that has a certificate, while calls of the store fail. -/
def backfilling (faults : Table StoreMethod (List (Option StoreError))) :
    DelegationCycle SimulatedLedger :=
  let k := meeting ⟨530⟩ ⟨529⟩ ⟨500⟩ firstDelegate
  { k with world := { k.world with faults } }

/-- A full backfill that halts before its cursor is cleared is resumed by the next cycle and
finished. -/
theorem fullBackfill_resumable_halted :
    let k := backfilling ⟨[(.clearCursor, [some (.storage "down")])]⟩
    let next := backfilling {}
    let s := runAll [k]
    k.world.MarkSucceeds ∧ ¬ s.isBackfillDone fullBackfillJob ∧ 0 < s.states.size ∧
      (s.cursors.get? fullBackfillJob).isSome ∧ (next.run s).isBackfillDone fullBackfillJob := by
  intro k next s
  have hmark : k.world.MarkSucceeds := by
    unfold World.MarkSucceeds
    decide
  have hmarks : ∀ x ∈ [k], x.world.MarkSucceeds := List.forall_mem_singleton.mpr hmark
  have hnot : ¬ s.isBackfillDone fullBackfillJob := by decide +kernel
  have hsize : 0 < s.states.size := by decide +kernel
  have hreport : (Run.syncDelegations next.settings (next.world.withStore s)).1.toOption.map
      (fun report => (report.fullBackfill, report.backfillSkipped)) = some (true, 0) := by
    decide +kernel
  obtain ⟨hresumable, hnext, -⟩ := fullBackfill_resumable [k] next
  refine ⟨hmark, hnot, hsize, hresumable hmarks hnot hsize, ?_⟩
  rcases hr : Run.syncDelegations next.settings (next.world.withStore s) with ⟨_ | report, w'⟩ <;>
    rw [hr] at hreport
  · cases hreport
  · obtain ⟨hfull, hskipped⟩ := Prod.mk.inj (Option.some.inj hreport)
    have hstore : next.run s = w'.store := congrArg (fun r => r.2.store) hr
    rw [hstore]
    exact (hnext report w' hr).2 hfull hskipped

/-- The cursor is cleared and then the mark cannot be set. The backfill is not finished, it has no
cursor, and the next cycle does not take it up. -/
theorem fullBackfill_stranded :
    let k := backfilling ⟨[(.markBackfillDone, [some (.storage "down")])]⟩
    let next := backfilling {}
    let s := runAll [k]
    ¬ s.isBackfillDone fullBackfillJob ∧ 0 < s.states.size ∧
      (s.cursors.get? fullBackfillJob).isNone ∧
      (Run.syncDelegations next.settings (next.world.withStore s)).1.toOption.map
        (fun report => report.fullBackfill) = some false := by
  decide +kernel

end DelegationCycle

end GovernanceIndex
