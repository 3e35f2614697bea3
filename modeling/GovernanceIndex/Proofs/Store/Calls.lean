import GovernanceIndex.Store.Call
import Mathlib.Logic.Relation

/-!
Stores that come out of each other by calls. What every single call keeps is kept along any calls,
and so by whatever a worker does.
-/
namespace GovernanceIndex

namespace Store

/-- A store comes out of another one by calls. -/
def Reaches : Store → Store → Prop :=
  Relation.ReflTransGen fun s s' => ∃ c r, s.perform c = .ok (r, s')

instance : IsPreorder Store Reaches :=
  inferInstanceAs (IsPreorder Store (Relation.ReflTransGen _))

namespace Reaches

variable {s s' : Store}

theorem of_perform {c : StoreCall} {r : c.Result} (h : s.perform c = .ok (r, s')) :
    s.Reaches s' := Relation.ReflTransGen.single ⟨c, r, h⟩

theorem keeps (h : s.Reaches s') {P : Store → Prop}
    (hP : ∀ {s s' : Store} {c : StoreCall} {r : c.Result}, s.perform c = .ok (r, s') → P s → P s')
    (hs : P s) : P s' := by
  induction h with
  | refl => exact hs
  | tail _ hcall ih =>
    obtain ⟨c, r, hperform⟩ := hcall
    exact hP hperform ih

end Reaches

end Store

end GovernanceIndex
