import GovernanceIndex.Proofs.Run.Contract
import Mathlib.Data.List.Forall2

/-!
Actions that agree. From related worlds two actions that agree come to related results, or to the
same halt, and they leave related worlds behind. Agreement is put together along the steps of both
actions, and so compares runs that go through the same steps in worlds that need not be the same.
-/
namespace GovernanceIndex.Run

variable {L α α' β β' γ γ' ε : Type}

/-- Two ends are results that are related, or one and the same error. -/
def Matches (Q : α → α' → Prop) : Except ε α → Except ε α' → Prop
  | .ok a, .ok a' => Q a a'
  | .error cause, .error cause' => cause' = cause
  | _, _ => False

theorem Matches.eq {r r' : Except ε α} (h : Matches Eq r r') : r' = r := by
  rcases r with cause | a <;> rcases r' with cause' | a'
  · exact congrArg Except.error h
  · exact h.elim
  · exact h.elim
  · exact congrArg Except.ok (Eq.symm h)

/-- From related worlds two actions come to ends that match, and leave related worlds. -/
def Agree (R : World L → World L → Prop) (m : Run L α) (m' : Run L α') (Q : α → α' → Prop) :
    Prop :=
  ∀ w w', R w w' → Matches Q (m w).1 (m' w').1 ∧ R (m w).2 (m' w').2

namespace Agree

variable {R : World L → World L → Prop} {m : Run L α} {m' : Run L α'} {Q : α → α' → Prop}

theorem pure {a : α} {a' : α'} (h : Q a a') : Agree R (pure a : Run L α) (pure a') Q :=
  fun _ _ hw => ⟨h, hw⟩

theorem throw (halt : Halt) : Agree R (throw halt : Run L α) (throw halt : Run L α') Q :=
  fun _ _ hw => ⟨rfl, hw⟩

theorem bind {S : β → β' → Prop} {f : α → Run L β} {f' : α' → Run L β'} (hm : Agree R m m' Q)
    (hf : ∀ a a', Q a a' → Agree R (f a) (f' a') S) : Agree R (m >>= f) (m' >>= f') S := by
  intro w w' hw
  obtain ⟨hends, hworlds⟩ := hm w w' hw
  rw [bind_apply, bind_apply]
  rcases hr : m w with ⟨halt | a, v⟩ <;> rcases hr' : m' w' with ⟨halt' | a', v'⟩ <;>
    rw [hr, hr'] at hends hworlds
  · exact ⟨hends, hworlds⟩
  · exact hends.elim
  · exact hends.elim
  · exact hf a a' hends v v' hworlds

theorem getBind {f f' : World L → Run L α} {Q : α → α → Prop}
    (h : ∀ w w', R w w' → Agree R (f w) (f' w') Q) : Agree R (get >>= f) (get >>= f') Q := by
  intro w w' hw
  rw [get_bind_apply, get_bind_apply]
  exact h w w' hw w w' hw

theorem attempt (h : Agree R m m' Q) : Agree R (attempt m) (attempt m') (Matches Q) := by
  intro w w' hw
  obtain ⟨hends, hworlds⟩ := h w w' hw
  rw [attempt_apply, attempt_apply]
  rcases hr : m w with ⟨halt | a, v⟩ <;> rcases hr' : m' w' with ⟨halt' | a', v'⟩ <;>
    rw [hr, hr'] at hends hworlds
  · obtain rfl : halt' = halt := hends
    rcases halt' with cause | text | _ <;> exact ⟨rfl, hworlds⟩
  · exact hends.elim
  · exact hends.elim
  · exact ⟨hends, hworlds⟩

theorem forM {P : γ → γ' → Prop} {f : γ → Run L Unit} {f' : γ' → Run L Unit} {xs : List γ}
    {ys : List γ'} (h : List.Forall₂ P xs ys)
    (hf : ∀ x y, P x y → Agree R (f x) (f' y) fun _ _ => True) :
    Agree R (xs.forM f) (ys.forM f') fun _ _ => True := by
  induction h with
  | nil => exact pure trivial
  | cons hxy _ ih => exact bind (hf _ _ hxy) fun _ _ _ => ih

end Agree

end GovernanceIndex.Run
