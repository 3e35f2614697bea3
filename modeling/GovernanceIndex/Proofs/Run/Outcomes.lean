import GovernanceIndex.Proofs.Run.Regime

/-!
Contracts that tell how an action halts. Where a contract promises the same of every halt, an
outcome tells of each halt what it leaves behind.
-/
namespace GovernanceIndex.Run

variable {L α β : Type}

/-- From a world with `P`, an action that ends leads to `Q`, and one that halts leads to what `E`
says of that halt. -/
def Outcomes (P : World L → Prop) (m : Run L α) (Q : α → World L → Prop)
    (E : Halt → World L → Prop) : Prop :=
  ∀ w, P w → match m w with
    | (.ok a, w') => Q a w'
    | (.error halt, w') => E halt w'

namespace Outcomes

variable {P P' : World L → Prop} {Q Q' : α → World L → Prop} {E E' : Halt → World L → Prop}
  {m : Run L α}

theorem ok (h : Outcomes P m Q E) {a : α} {w w' : World L} (hw : P w) (hr : m w = (.ok a, w')) :
    Q a w' := by
  have hends := h w hw
  rwa [hr] at hends

theorem mono (h : Outcomes P m Q E) (hP : ∀ w, P' w → P w) (hQ : ∀ a w, Q a w → Q' a w)
    (hE : ∀ halt w, E halt w → E' halt w) : Outcomes P' m Q' E' := by
  intro w hw
  have hends := h w (hP _ hw)
  rcases hr : m w with ⟨halt | a, w'⟩ <;> rw [hr] at hends
  · exact hE _ _ hends
  · exact hQ _ _ hends

theorem post (h : Outcomes P m Q E) (hQ : ∀ a w, Q a w → Q' a w) : Outcomes P m Q' E :=
  h.mono (fun _ => id) hQ fun _ _ => id

theorem assuming {p : Prop} (h : p → Outcomes P m Q E) : Outcomes (fun w => p ∧ P w) m Q E :=
  fun w hw => h hw.1 w hw.2

theorem ofSome {ι : Sort*} {P : ι → World L → Prop} (h : ∀ i, Outcomes (P i) m Q E) :
    Outcomes (fun w => ∃ i, P i w) m Q E :=
  fun w hw => hw.elim fun i hi => h i w hi

theorem pure {a : α} (h : ∀ w, P w → Q a w) : Outcomes P (pure a : Run L α) Q E := h

theorem throw {halt : Halt} (h : ∀ w, P w → E halt w) :
    Outcomes P (throw halt : Run L α) Q E := h

theorem bind {S : β → World L → Prop} {f : α → Run L β} (hm : Outcomes P m Q E)
    (hf : ∀ a, Outcomes (Q a) (f a) S E) : Outcomes P (m >>= f) S E := by
  intro w hw
  have hends := hm w hw
  rw [bind_apply]
  rcases hr : m w with ⟨halt | a, w'⟩ <;> rw [hr] at hends
  · exact hends
  · exact hf a w' hends

theorem getBind {f : World L → Run L α} (h : ∀ w₀, P w₀ → Outcomes P (f w₀) Q E) :
    Outcomes P (get >>= f) Q E := by
  intro w hw
  rw [get_bind_apply]
  exact h w hw w hw

theorem triple_iff {R : World L → Prop} : Triple P m Q R ↔ Outcomes P m Q fun _ => R := Iff.rfl

theorem of_triple_mono {R : World L → Prop} (h : Triple P m Q R) (hR : ∀ halt w, R w → E halt w) :
    Outcomes P m Q E := (triple_iff.mp h).mono (fun _ => id) (fun _ _ => id) hR

theorem of_triple (h : Triple P m Q fun _ => False) : Outcomes P m Q E :=
  of_triple_mono h fun _ _ => False.elim

end Outcomes

end GovernanceIndex.Run

namespace GovernanceIndex.Regime

variable {L α : Type} [LedgerService L] {r : Regime L} {m : Run L α} {V : α → Prop}

/-- An action under a regime returns a proper value or halts as it may. -/
theorem Runs.outcomes (h : r.Runs m V) :
    Run.Outcomes r.holds m (fun a w => V a ∧ r.holds w)
      (fun halt w => r.halts halt ∧ r.holds w) := by
  intro w hw
  obtain ⟨hholds, hends⟩ := h w hw
  rcases hr : m w with ⟨halt | a, w'⟩ <;> rw [hr] at hholds hends <;> exact ⟨hends, hholds⟩

end GovernanceIndex.Regime
