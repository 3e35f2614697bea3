import GovernanceIndex.Proofs.Ledger.ReturnedLists
import GovernanceIndex.Proofs.Sync.CycleRegime
import GovernanceIndex.Proofs.Sync.EpochRegime

/-!
Runs that do not seek the delegators in an epoch. The last step of an epoch alone sends requests for
the delegators in that epoch: neither its other steps nor the syncs of other epochs do so, nor a
cycle of a sync of delegations, which asks for the current ones.
-/
namespace GovernanceIndex

namespace World

variable {L : Type} [LedgerService L] {e : Epoch} {w w' : World L}

/-- Between two worlds requests were sent, none of them for the delegators in an epoch. -/
def Quiet (e : Epoch) (w w' : World L) : Prop :=
  ∃ qs, w.Sends qs w' ∧ ∀ q ∈ qs, ¬ q.Seeks e

theorem Sends.quiet (h : w.Sends [] w') : Quiet e w w' := SendsOnly.of_none h

instance : IsPreorder (World L) (Quiet e) :=
  inferInstanceAs (IsPreorder (World L) (SendsOnly fun q => ¬ q.Seeks e))

theorem Quiet.ask (w : World L) {q : Request} (hq : ¬ q.Seeks e) : Quiet e w (w.ask q).2 :=
  SendsOnly.ask w hq

theorem Quiet.congr {w'' : World L} (h : Quiet e w w') (hledger : w''.ledger = w'.ledger)
    (hrequests : w''.requests = w'.requests) (hdeadline : w''.deadline = w'.deadline) :
    Quiet e w w'' := SendsOnly.congr h hledger hrequests hdeadline

end World

open World (Quiet)

/-- Since a world, no request was sent for the delegators in an epoch; what is remembered of
inventories has a property. -/
def quietRegime {L : Type} [LedgerService L] (e : Epoch)
    (K : Table Epoch (List DelegateSnapshot) → Prop) (w₀ : World L) : Regime L where
  permits q := ¬ q.Seeks e
  answers _ _ := True
  holds w := Quiet e w₀ w ∧ K w.cache.inventories
  halts _ := True
  ask w _ hq hw := ⟨⟨trans_of (Quiet e) hw.1 (.ask w hq), hw.2⟩, by split <;> trivial⟩
  read w k _ hw :=
    ⟨⟨trans_of (Quiet e) hw.1 (World.Sends.call w k).quiet, (w.call_frame k).2.1 ▸ hw.2⟩,
      fun _ _ => trivial⟩
  renew w _ _ hw :=
    ⟨trans_of (Quiet e) hw.1 (World.Sends.call w _).quiet, (w.call_frame _).2.1 ▸ hw.2⟩
  tick _ _ _ hw := ⟨hw.1.congr rfl rfl rfl, hw.2⟩
  late _ _ _ := trivial
  tip _ tip _ _ := ⟨⟨tip, none, none⟩, trivial, rfl⟩
  remember _ _ _ hw := ⟨hw.1.congr rfl rfl rfl, hw.2⟩

namespace Regime

variable {L : Type} [LedgerService L] {e epoch : Epoch} {step : EpochStep}
  {K : Table Epoch (List DelegateSnapshot) → Prop} {w₀ : World L}

theorem quiet_call (k : StoreCall) :
    (quietRegime e K w₀).Runs (Run.call k : Run L k.Result) fun _ => True := by
  apply Regime.call
  intro w hw
  refine ⟨⟨trans_of (Quiet e) hw.1 (World.Sends.call w k).quiet,
    (w.call_frame k).2.1 ▸ hw.2⟩, ?_⟩
  split <;> trivial

theorem quiet_grants (h : epoch ≠ e ∨ step ≠ .delegators)
    (hK : ∀ t rows, K t → K (t.insert epoch rows)) :
    (quietRegime e K w₀).Grants epoch step where
  own x hx q hq habout := by
    rintro ⟨d, p, rfl⟩
    rcases h with hother | hstep
    · exact hother (habout e rfl).symm
    · obtain rfl : Endpoint.drepDelegators = x := hq
      revert hx hstep
      cases step <;> decide
  inventory _ _ _ _ x hx q hq _ := by
    rintro ⟨d, p, rfl⟩
    obtain rfl : Endpoint.drepDelegators = x := hq
    revert hx
    decide
  write k _ := quiet_call k
  remember _ _ hw := ⟨hw.1.congr rfl rfl rfl, hK _ _ hw.2⟩
  incomplete _ _ _ _ := trivial

end Regime

namespace Run

variable {L α : Type} [LedgerService L] {e epoch : Epoch}

theorem quiet_of_runs {m : Run L α} {V : World L → α → Prop}
    (h : ∀ w₀, (quietRegime e (fun _ => True) w₀).Runs m (V w₀)) : Shifts (Quiet e) m :=
  fun w => (h w w ⟨refl_of (Quiet e) w, trivial⟩).1.1

theorem quietStep (c : Settings) {step : EpochStep} (hstep : step ≠ .delegators) :
    Shifts (Quiet e) (stepWork c e step : Run L Nat) :=
  quiet_of_runs fun _ => Regime.stepWork (Regime.quiet_grants (.inr hstep) fun _ _ => id) c

theorem quietInventory (c : Settings) (epoch : Epoch) :
    Shifts (Quiet e) (inventory c epoch : Run L (List DelegateSnapshot)) := by
  refine quiet_of_runs (V := fun _ _ => True) fun w₀ => ?_
  have hgrants : (quietRegime e (fun _ => True) w₀).Grants epoch .dreps :=
    Regime.quiet_grants (.inr nofun) fun _ _ => id
  exact Regime.inventory _ c epoch hgrants.remember fun _ _ _ _ =>
    Regime.epochInventory c hgrants.own

theorem quietPlan (c : Settings) :
    Shifts (Quiet e) (planEpochs c : Run L (EpochsReport × List Epoch)) :=
  quiet_of_runs fun _ => Regime.epochPlan (Request.not_seeks (by decide)) c

theorem quietEpoch (c : Settings) (hother : epoch ≠ e) (w : World L) :
    Quiet e w (syncEpoch c epoch w).2 ∧ (w.cache.inventories.get? e = none →
      (syncEpoch c epoch w).2.cache.inventories.get? e = none) := by
  let K (t : Table Epoch (List DelegateSnapshot)) : Prop :=
    w.cache.inventories.get? e = none → t.get? e = none
  have hK (t : Table Epoch (List DelegateSnapshot)) (rows : List DelegateSnapshot) (ht : K t) :
      K (t.insert epoch rows) := by
    intro hw
    rw [Table.get?_insert, if_neg hother.symm]
    exact ht hw
  have hruns := Regime.syncEpoch (r := quietRegime e K w)
    (fun step => Regime.quiet_grants (.inl hother) hK) c
  exact (hruns w ⟨refl_of (Quiet e) w, id⟩).1

theorem quietDelegations (c : Settings) :
    Shifts (Quiet e) (syncDelegations c : Run L DelegationsReport) := by
  refine quiet_of_runs (V := fun _ _ => True) fun w₀ => ?_
  have hcurrent (d : DelegateId) (p : Page) : ¬ (Request.page (.delegators d none) p).Seeks e := by
    rintro ⟨d', p', h⟩
    cases h
  have hobserving : (quietRegime e (fun _ => True) w₀).GrantsObserving :=
    { tip := Request.not_seeks nofun
      delegates := fun _ => Request.not_seeks nofun
      infos := fun _ => Request.not_seeks nofun
      powers := fun _ _ => Request.not_seeks nofun
      delegators := hcurrent
      remember := fun _ _ _ hw => ⟨hw.1.congr rfl rfl rfl, trivial⟩
      early := fun _ => trivial }
  have hreconciling : (quietRegime e (fun _ => True) w₀).GrantsReconciling :=
    { histories := fun _ => Request.not_seeks nofun
      write := fun k _ => Regime.quiet_call k
      overflow := trivial }
  exact Regime.syncDelegations hobserving hreconciling c

end Run

end GovernanceIndex
