import GovernanceIndex.Proofs.Ledger.Exchanges
import GovernanceIndex.Proofs.Sync.CycleRegime

/-!
Actions that avoid an endpoint: they send no request to it. The first part of a cycle, which
observes the delegators, avoids the endpoint of the histories.
-/
namespace GovernanceIndex

/-- Between two worlds requests were sent, none of them to an endpoint. -/
def World.Avoids {L : Type} [LedgerService L] (x : Endpoint) (w w' : World L) : Prop :=
  ∃ qs, w.Sends qs w' ∧ ∀ q ∈ qs, q.endpoint ≠ x

open World (Avoids)

variable {L : Type} [LedgerService L] {x : Endpoint} {w w' : World L}

theorem World.Sends.avoids (h : w.Sends [] w') : Avoids x w w' := World.SendsOnly.of_none h

instance : IsPreorder (World L) (Avoids x) :=
  inferInstanceAs (IsPreorder (World L) (World.SendsOnly fun q => q.endpoint ≠ x))

/-- Since a world, no request was sent to an endpoint, and none may be. -/
def avoidRegime (x : Endpoint) (w₀ : World L) : Regime L where
  permits q := q.endpoint ≠ x
  answers _ _ := True
  holds := Avoids x w₀
  halts _ := True
  ask w _ hq hw := ⟨trans_of (Avoids x) hw (World.SendsOnly.ask w hq), by split <;> trivial⟩
  read w c _ hw := ⟨trans_of (Avoids x) hw (World.Sends.call w c).avoids, fun _ _ => trivial⟩
  renew w _ _ hw := trans_of (Avoids x) hw (World.Sends.call w _).avoids
  tick _ _ _ hw := World.SendsOnly.congr hw rfl rfl rfl
  late _ _ _ := trivial
  tip _ e _ _ := ⟨⟨e, none, none⟩, trivial, rfl⟩
  remember _ _ _ hw := World.SendsOnly.congr hw rfl rfl rfl

namespace Run

theorem observe_avoids (c : Settings) :
    Shifts (Avoids .accountDelegationHistory) (observe c : Run L (Epoch × List Found)) := by
  intro w₀
  have hobserving : (avoidRegime .accountDelegationHistory w₀).GrantsObserving :=
    { tip := nofun
      delegates := nofun
      infos := nofun
      powers := nofun
      delegators := nofun
      remember := fun _ _ _ hw => World.SendsOnly.congr hw rfl rfl rfl
      early := fun _ => trivial }
  have hstart : Avoids .accountDelegationHistory w₀ w₀ := refl_of (Avoids _) w₀
  exact (Regime.observe hobserving c w₀ hstart).1

end Run

end GovernanceIndex
