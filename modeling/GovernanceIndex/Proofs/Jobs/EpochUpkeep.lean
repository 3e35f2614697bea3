import GovernanceIndex.Proofs.Jobs.FullSync
import GovernanceIndex.Proofs.Sync.BackfillAccounts
import GovernanceIndex.Proofs.Sync.DelegatorTargets

/-!
What runs of the jobs keep of epochs as long as no call of the store meets a fault. An orderly store
stays orderly, and what is stored for an epoch whose last step is marked stays as it is: syncs of
other epochs do not touch it, a sync of the epoch itself has no step to run, and neither leases nor
syncs of delegations touch any epoch.
-/
namespace GovernanceIndex

open World (CallFrame LeaseFrame)

namespace Store

variable {s s' : Store} {e : Epoch}

structure SameEpochs (s s' : Store) : Prop where
  checkpoints : s'.checkpoints = s.checkpoints
  snapshots : s'.snapshots = s.snapshots
  totals : s'.totals = s.totals
  summaries : s'.summaries = s.summaries

namespace SameEpochs

instance : IsPreorder Store SameEpochs where
  refl _ := ⟨rfl, rfl, rfl, rfl⟩
  trans _ _ _ h h' := ⟨h'.checkpoints.trans h.checkpoints, h'.snapshots.trans h.snapshots,
    h'.totals.trans h.totals, h'.summaries.trans h.summaries⟩

theorem of_sameData (s s' : Store) (h : s.SameData s') : s.SameEpochs s' :=
  ⟨h.eq fun s => s.checkpoints, h.eq fun s => s.snapshots, h.eq fun s => s.totals,
    h.eq fun s => s.summaries⟩

theorem of_perform (k : StoreCall) (hk : k.isDelegationWrite) (s : Store) (r : k.Result)
    (s' : Store) (h : s.perform k = .ok (r, s')) : s.SameEpochs s' := by
  cases k <;> cases hk <;> cases h <;> exact ⟨rfl, rfl, rfl, rfl⟩

theorem alikeAt (h : s.SameEpochs s') (e : Epoch) : s.AlikeAt e s' := by
  refine ⟨by rw [h.checkpoints], ?_, by rw [h.totals], ?_⟩
  · unfold snapshotsOf
    rw [h.snapshots]
  · unfold summariesOf
    rw [h.summaries]

theorem syncedAt (h : s.SameEpochs s') (e : Epoch) (step : EpochStep) :
    s'.syncedAt e step = s.syncedAt e step := (h.alikeAt e).syncedAt step

end SameEpochs

/-- Rows of inventories and summaries are stored once each, inventories only behind their mark, and
every mark rests on what it is to rest on. -/
structure Orderly (s : Store) : Prop where
  charted : s.Charted
  tallied : s.Tallied
  sound : s.Sound

namespace Orderly

theorem empty : ({} : Store).Orderly where
  charted := Worked.empty.charted
  tallied := ⟨List.nodup_nil, nofun⟩
  sound _ step h := by cases step <;> cases h

theorem same (h : s.Orderly) (hs : s.SameEpochs s') : s'.Orderly := by
  refine ⟨h.charted.congr hs.snapshots fun e => hs.syncedAt e .dreps, ?_, fun e step hstep => ?_⟩
  · unfold Tallied
    rw [hs.summaries]
    exact h.tallied
  · rw [hs.syncedAt] at hstep
    obtain ⟨hprev, hrow⟩ := h.sound e step hstep
    exact ⟨fun q hq => hs.syncedAt e q ▸ hprev q hq, fun hstep => hs.totals ▸ hrow hstep⟩

theorem not_due {L : Type} {w : World L} (h : w.store.Orderly)
    (hmarked : (w.store.syncedAt e .delegators).isSome) (c : Settings) (step : EpochStep) :
    ¬ w.Due c e step := by
  have htotals := (h.sound e .delegators hmarked).prev .totals rfl
  have hdreps := (h.sound e .totals htotals).prev .dreps rfl
  rintro ⟨hunmarked, -⟩
  cases step
  · rw [hunmarked] at hdreps
    cases hdreps
  · rw [hunmarked] at htotals
    cases htotals
  · rw [hunmarked] at hmarked
    cases hmarked

end Orderly

end Store

open Store (AlikeAt Orderly SameEpochs Tallied)

namespace World

variable {L : Type} {e : Epoch}

/-- Without faults an orderly store stays orderly, and an epoch whose last step is marked keeps what
is stored for it. -/
def Upholds (e : Epoch) (w w' : World L) : Prop :=
  w.Faultless ∧ w.store.Orderly → (w'.Faultless ∧ w'.store.Orderly) ∧
    ((w.store.syncedAt e .delegators).isSome → AlikeAt e w.store w'.store)

instance : IsPreorder (World L) (Upholds e) where
  refl w hw := ⟨hw, fun _ => refl_of (AlikeAt e) w.store⟩
  trans _ _ _ h h' := by
    intro hw
    obtain ⟨hw', hkept⟩ := h hw
    obtain ⟨hw'', hkept'⟩ := h' hw'
    refine ⟨hw'', fun hmarked => ?_⟩
    have hfirst := hkept hmarked
    exact trans_of (AlikeAt e) hfirst (hkept' (hfirst.syncedAt _ ▸ hmarked))

namespace Upholds

theorem calls : CallFrame SameEpochs (Upholds e : World L → World L → Prop) where
  call w k hk := by
    rintro ⟨hfaultless, horderly⟩
    have hsame : w.store.SameEpochs (w.call k).2.store := call_relates hk
    exact ⟨⟨hfaultless.call k, horderly.same hsame⟩, fun _ => hsame.alikeAt e⟩
  still w w' hstore hfaults := by
    unfold Upholds Faultless
    rw [hstore, hfaults]
    exact fun hw => ⟨hw, fun _ => refl_of (AlikeAt e) w.store⟩

theorem leaseFrame (job : String) : LeaseFrame job (Upholds e : World L → World L → Prop) :=
  calls.leaseFrame SameEpochs.of_sameData job

variable [LedgerService L]

theorem reading : World.Frame (fun _ => false) (Upholds e : World L → World L → Prop) :=
  calls.frame SameEpochs.of_sameData fun _ hk => nomatch hk

theorem syncDelegations (c : Settings) :
    Run.Shifts (Upholds e) (Run.syncDelegations c : Run L DelegationsReport) :=
  (calls.frame SameEpochs.of_sameData SameEpochs.of_perform).syncDelegations c

end Upholds

end World

open World (Upholds)

namespace Run

variable {L : Type} [LedgerService L] {e : Epoch}

theorem tallyEpoch (c : Settings) (epoch : Epoch) {w : World L} (hw : w.store.Tallied) :
    (syncEpoch c epoch w).2.store.Tallied := by
  let R (s s' : Store) : Prop := s.Tallied → s'.Tallied
  have : IsPreorder Store R := { refl _ := id, trans _ _ _ h h' := fun hs => h' (h hs) }
  have hframe : World.Frame StoreCall.isEpochWrite (OnStore R : World L → World L → Prop) :=
    CallFrame.onStore.frame (fun _ _ hdata hs => Tallied.sameData hs hdata)
      fun _ _ _ _ _ hp hs => hs.perform hp
  exact hframe.syncEpochBy (fun p step => hframe.runStep c epoch p step) w hw

theorem upholdEpoch (c : Settings) (epoch : Epoch) :
    Shifts (Upholds e) (syncEpoch c epoch : Run L EpochReport) := by
  rintro w ⟨hfaultless, horderly⟩
  obtain ⟨hfaultless', hcharted⟩ := chartEpoch c epoch w ⟨hfaultless, horderly.charted⟩
  have hsound := (syncEpoch_sound c epoch).final horderly.sound
  refine ⟨⟨hfaultless', hcharted, tallyEpoch c epoch horderly.tallied, hsound⟩, fun hmarked => ?_⟩
  rcases eq_or_ne e epoch with rfl | hne
  · rw [syncEpoch_idle (horderly.not_due hmarked c), World.call_store rfl]
    exact refl_of (AlikeAt e) w.store
  · exact syncEpoch_alikeAt c hne w

theorem upholdEpochs (c : Settings) : Shifts (Upholds e) (syncEpochs c : Run L EpochsReport) :=
  Shifts.bind (Upholds.reading.planEpochs c) fun plan =>
    shiftEach c plan.1 plan.2 fun epoch _ => upholdEpoch c epoch

end Run

theorem World.Upholds.after {L : Type} [LedgerService L] {e : Epoch} (w : World L) (c : Settings)
    (job : Job) : Upholds e w (w.after c job) :=
  after_shifts leaseFrame (fun w => calls.still w _ rfl rfl) (Run.upholdEpochs c)
    (syncDelegations c) w job

end GovernanceIndex
