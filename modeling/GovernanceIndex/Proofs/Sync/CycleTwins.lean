import GovernanceIndex.Proofs.Sync.Twins

/-!
Cycles in twin worlds. A cycle that observes the same in two twin worlds, its lookups ending in the
same order, reconciles both stores in the same way, request by request and batch by batch, also where
a history cannot be had. So both cycles come to the same and leave stores that are alike.
-/
namespace GovernanceIndex

open Store (Alike)
open World (Fixed Twins)

theorem batches_map {α β : Type} (g : α → β) (size : Nat) (xs : List α) :
    (batches size xs).map (List.map g) = batches size (xs.map g) := by
  have hfrom (size left : Nat) (xs : List α) :
      (batchesFrom size left xs).map (List.map g) = batchesFrom size left (xs.map g) := by
    induction left generalizing xs with
    | zero => rfl
    | succ left ih =>
      unfold batchesFrom
      rw [List.isEmpty_map]
      split
      · rfl
      · rw [List.map_cons, ih, List.map_take, List.map_drop]
  unfold batches
  rw [hfrom, List.length_map]

/-- Delegates are told from what their lookups come to. -/
theorem Replies.found_injective (f : Replies) (pageSize : Nat) (epoch : Option Epoch) :
    Function.Injective (f.found pageSize epoch) :=
  List.map_injective_iff.mpr fun _ _ h => congrArg Found.delegate h

namespace Run

variable {L : Type} [LedgerService L] {f : Replies} {K : JobCache → JobCache → Prop}

theorem agreeQuotaIsLow (c : Settings) :
    Agree (Twins f K) (quotaIsLow c : Run L Bool) (quotaIsLow c) Eq := by
  apply Agree.getBind
  intro w w' hw
  rw [hw.left.quota _ (refl_of _ w.ledger), hw.right.quota _ (refl_of _ w'.ledger)]
  exact Agree.pure rfl

theorem agreeBackfillBatch (job : String) (total : UInt64)
    (histories : Table StakeAddress (List DelegationUpdate)) (before : UInt64) (b : Backfill)
    (batch : List StakeAddress) :
    Agree (Twins f K) (backfillBatch job total histories before b batch : Run L Backfill)
      (backfillBatch job total histories before b batch) Eq := by
  induction batch generalizing before b with
  | nil => exact Agree.pure rfl
  | cons address rest ih =>
    apply Agree.getBind
    intro w w' _
    -- The replays differ in the times of their changes only.
    have hreplays := History.replay_untimed address ((histories.get? address).getD []) w'.now w.now
    have hlength := congrArg List.length hreplays
    simp only [List.length_map, History.replay] at hlength
    apply Agree.bind (agreeWrite (fun _ => rfl) (fun _ => rfl) fun s s' hs =>
      hs.applyBackfill hreplays _ _)
    intro _ _ _
    rw [hlength]
    exact ih _ _

theorem agreeBackfillBatches (c : Settings) (job : String) (total before : UInt64) (b : Backfill)
    (batches : List (List StakeAddress)) :
    Agree (Twins f K) (backfillBatches c job total before b batches : Run L Backfill)
      (backfillBatches c job total before b batches) Eq := by
  induction batches generalizing before b with
  | nil => exact Agree.pure rfl
  | cons batch rest ih =>
    apply Agree.bind (agreeQuotaIsLow c)
    rintro low _ rfl
    split
    · exact Agree.pure rfl
    · apply Agree.bind (Agree.of_yields fun s k => fixedRequest c (.histories batch))
      rintro histories _ rfl
      apply Agree.bind (agreeBackfillBatch _ _ _ _ _ _)
      rintro b _ rfl
      exact ih _ _

theorem agreeBackfill (c : Settings) (job : String) (addresses : List StakeAddress)
    (cursor : Option BackfillCursor) :
    Agree (Twins f K) (backfill c job addresses cursor : Run L Backfill)
      (backfill c job addresses cursor) Eq := by
  unfold backfill
  dsimp only
  split
  · exact Agree.throw _
  · apply Agree.bind (agreeBackfillBatches c _ _ _ _ _)
    rintro b _ rfl
    split
    · apply Agree.bind (agreeWrite (fun _ => rfl) (fun _ => rfl) fun s s' hs => hs.clearCursor job)
      intro _ _ _
      split
      · apply Agree.getBind
        intro w w' _
        apply Agree.bind (agreeWrite (fun _ => rfl) (fun _ => rfl) fun s s' hs =>
          hs.markBackfillDone job)
        exact fun _ _ _ => Agree.pure rfl
      · exact Agree.pure rfl
    · exact Agree.pure rfl

theorem agreeCursor (job : String) :
    Agree (Twins f K) (call (.cursor job) : Run L (Option BackfillCursor)) (call (.cursor job))
      Eq := by
  apply agreeRead fun _ => rfl
  intro s s' hs
  rw [hs.cursors]

theorem agreeFullBackfill :
    Agree (Twins f K) (fullBackfill : Run L (Bool × Option BackfillCursor)) fullBackfill Eq := by
  have hdone : Agree (Twins f K) (call (.isBackfillDone fullBackfillJob) : Run L Bool)
      (call (.isBackfillDone fullBackfillJob)) Eq := by
    apply agreeRead fun _ => rfl
    intro s s' hs
    unfold Store.isBackfillDone
    rw [hs.finishedBackfills]
  have hcount : Agree (Twins f K) (call .stateCount : Run L Nat) (call .stateCount) Eq := by
    apply agreeRead fun _ => rfl
    intro s s' hs
    rw [hs.states]
  apply Agree.bind hdone
  rintro done _ rfl
  apply Agree.bind (agreeCursor fullBackfillJob)
  rintro cursor _ rfl
  split
  · exact Agree.pure rfl
  · split
    · exact Agree.pure rfl
    · apply Agree.bind hcount
      rintro count _ rfl
      exact Agree.pure rfl

theorem agreeBackfillNew (c : Settings) (addresses : List StakeAddress) :
    Agree (Twins f K) (backfillNew c addresses : Run L (Bool × Backfill)) (backfillNew c addresses)
      Eq := by
  apply Agree.bind agreeFullBackfill
  rintro ⟨full, cursor⟩ _ rfl
  dsimp only
  split
  · apply Agree.bind (agreeBackfill c _ _ _)
    rintro b _ rfl
    exact Agree.pure rfl
  · split
    · exact Agree.pure rfl
    · apply Agree.bind (agreeCursor incrementalBackfillJob)
      rintro cursor _ rfl
      apply Agree.bind (agreeBackfill c _ _ _)
      rintro b _ rfl
      exact Agree.pure rfl

theorem agreeStates (addresses : List StakeAddress) :
    Agree (Twins f K) (call (.states addresses) : Run L (Table StakeAddress DelegationState))
      (call (.states addresses)) Eq := by
  apply agreeRead fun _ => rfl
  intro s s' hs
  unfold Store.statesOf
  rw [hs.states]

theorem agreeBackfilledStates (b : Backfill) :
    Agree (Twins f K) (backfilledStates b : Run L (Table StakeAddress DelegationState))
      (backfilledStates b) Eq := by
  unfold backfilledStates
  split
  · exact Agree.pure rfl
  · exact agreeStates b.processed

theorem agreeWriteDifferences (c : Settings) {ds ds' : List Difference}
    (hds : ds'.map Difference.untimed = ds.map Difference.untimed) :
    Agree (Twins f K) (writeDifferences c ds : Run L Unit) (writeDifferences c ds')
      fun _ _ => True := by
  have hbatches := congrArg (batches c.writeBatchSize) hds
  rw [← batches_map, ← batches_map] at hbatches
  apply Agree.forM (P := fun batch batch' =>
    batch'.map Difference.untimed = batch.map Difference.untimed)
  · rw [← List.forall₂_eq_eq_eq, List.forall₂_map_left_iff, List.forall₂_map_right_iff] at hbatches
    exact hbatches.flip
  · intro batch batch' hbatch
    exact agreeWrite (fun _ => rfl) (fun _ => rfl) fun _ _ hs => hs.applyDifferences hbatch

theorem agreeReconcile (c : Settings) (epoch : Epoch) (found : List Found) :
    Agree (Twins f K) (reconcile c epoch found : Run L DelegationsReport)
      (reconcile c epoch found) Eq := by
  unfold reconcile
  apply Agree.bind (agreeStates _)
  rintro stored _ rfl
  apply Agree.bind (agreeBackfillNew c _)
  rintro ⟨full, b⟩ _ rfl
  apply Agree.bind (agreeBackfilledStates b)
  rintro backfilled _ rfl
  apply Agree.getBind
  intro w w' _
  have hds := @Difference.all_untimed epoch w'.now w.now
    (fun a => (backfilled.get? a).or (stored.get? a)) b.skipped
    (Observation.latest (Observation.reports found))
  apply Agree.bind (agreeWriteDifferences c hds)
  intro _ _ _
  dsimp only
  rw [Difference.length_of_untimed hds, Difference.countP_of_untimed hds]
  exact Agree.pure rfl

theorem syncDelegations_eq_aim (c : Settings) :
    (syncDelegations c : Run L DelegationsReport) = aim c >>= fun a =>
      Lookup.run c c.delegationConcurrency none a.2 >>= reconcile c a.1 := by
  rw [syncDelegations_eq, observe_eq]
  simp only [bind_assoc, pure_bind]

/-- Two cycles that observe the same in twin worlds come to the same and leave twin worlds, whatever
is remembered in them. -/
theorem agreeSyncDelegations (c : Settings) {w w' : World L} (hw : Twins f (fun _ _ => True) w w')
    (hobserved : f.observed c w'.store w'.cache = f.observed c w.store w.cache) :
    (syncDelegations c w').1 = (syncDelegations c w).1 ∧
      Twins f (fun _ _ => True) (syncDelegations c w).2 (syncDelegations c w').2 := by
  have haim := fixedAim c w hw.left
  have haim' := fixedAim c w' hw.right
  rw [hobserved] at haim'
  rw [syncDelegations_eq_aim, bind_apply, bind_apply]
  rcases hr : (aim c : Run L _) w with ⟨halt | ⟨epoch, ids⟩, v⟩ <;>
    rcases hr' : (aim c : Run L _) w' with ⟨halt' | ⟨epoch', ids'⟩, v'⟩ <;>
    rw [hr] at haim <;> rw [hr'] at haim' <;>
    obtain ⟨hends, k, hv⟩ := haim <;> obtain ⟨hends', k', hv'⟩ := haim'
  · obtain rfl := Except.error.inj (hends.symm.trans hends')
    exact ⟨rfl, hw.stay hv hv' trivial⟩
  · exact nomatch hends.symm.trans hends'
  · exact nomatch hends.symm.trans hends'
  · obtain ⟨hepoch, hfound⟩ := Prod.mk.inj (Except.ok.inj (hends.symm.trans hends'))
    obtain rfl : epoch = epoch' := hepoch
    obtain rfl : ids = ids' := Replies.found_injective f c.pageSize none hfound
    have hcycle : Agree (Twins f fun _ _ => True)
        (Lookup.run c c.delegationConcurrency none ids >>= reconcile c epoch : Run L _)
        (Lookup.run c c.delegationConcurrency none ids >>= reconcile c epoch) Eq := by
      apply Agree.bind (agreeLookup c _ _ _)
      rintro found _ rfl
      exact agreeReconcile c epoch found
    obtain ⟨hresults, hworlds⟩ := hcycle v v' (hw.stay hv hv' trivial)
    exact ⟨hresults.eq, hworlds⟩

end Run

end GovernanceIndex
