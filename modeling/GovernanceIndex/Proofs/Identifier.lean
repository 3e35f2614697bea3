import GovernanceIndex.Identifier

/-!
The order of identifiers is total, so that sorting by an identifier that tells things apart forgets
the order in which they came, and sorting by any other forgets it but for those that share one.
-/
namespace GovernanceIndex

theorem filter_mergeSort {α : Type} {le : α → α → Bool}
    (htrans : ∀ a b c, le a b = true → le b c = true → le a c = true)
    (htotal : ∀ a b, (le a b || le b a) = true) {p : α → Bool}
    (htied : ∀ a b, p a = true → p b = true → le a b = true) (xs : List α) :
    (xs.mergeSort le).filter p = xs.filter p := by
  have hpairs : (xs.filter p).Pairwise fun a b => le a b = true := by
    apply List.pairwise_of_forall_mem_list
    intro a ha b hb
    exact htied a b (List.mem_filter.mp ha).2 (List.mem_filter.mp hb).2
  have hsub := (List.sublist_mergeSort htrans htotal hpairs List.filter_sublist).filter p
  rw [List.filter_filter] at hsub
  simp only [Bool.and_self] at hsub
  have hlength := ((List.mergeSort_perm xs le).filter p).length_eq
  exact (hsub.eq_of_length hlength.symm).symm

namespace Identifier

variable {kind : IdKind} {α : Type}

theorem le_trans {a b c : Identifier kind} (hab : a.le b = true) (hbc : b.le c = true) :
    a.le c = true :=
  decide_eq_true (String.le_trans (of_decide_eq_true hab) (of_decide_eq_true hbc))

theorem le_total (a b : Identifier kind) : (a.le b || b.le a) = true := by
  rw [Bool.or_eq_true]
  exact (String.le_total a.text b.text).imp decide_eq_true decide_eq_true

theorem le_antisymm {a b : Identifier kind} (hab : a.le b = true) (hba : b.le a = true) : a = b :=
  ext (String.le_antisymm (of_decide_eq_true hab) (of_decide_eq_true hba))

theorem le_refl (a : Identifier kind) : a.le a = true := by simpa using le_total a a

theorem lt_of_not_lt {a b : Identifier kind} (hne : a ≠ b) (h : ¬ a.text < b.text) :
    b.text < a.text :=
  Std.lt_of_le_of_ne (String.not_lt.mp h) fun heq => hne (ext heq.symm)

theorem pairwise_mergeSort (f : α → Identifier kind) (xs : List α) :
    (xs.mergeSort fun a b => (f a).le (f b)).Pairwise fun a b => (f a).le (f b) = true := by
  apply List.pairwise_mergeSort
  · intro a b c hab hbc
    exact le_trans hab hbc
  · intro a b
    exact le_total (f a) (f b)

theorem mergeSort_eq_of_perm {f : α → Identifier kind} {xs ys : List α} (h : xs.Perm ys)
    (hf : ∀ a ∈ xs, ∀ b ∈ ys, f a = f b → a = b) :
    (xs.mergeSort fun a b => (f a).le (f b)) = ys.mergeSort fun a b => (f a).le (f b) := by
  apply List.Perm.eq_of_pairwise _ (pairwise_mergeSort f xs) (pairwise_mergeSort f ys)
  · exact ((List.mergeSort_perm xs _).trans h).trans (List.mergeSort_perm ys _).symm
  · intro a b ha hb hab hba
    exact hf a (List.mem_mergeSort.mp ha) b (List.mem_mergeSort.mp hb) (le_antisymm hab hba)

theorem mergeSort_filter (f : α → Identifier kind) (xs : List α) (d : Identifier kind) :
    (xs.mergeSort fun a b => (f a).le (f b)).filter (fun a => f a = d) =
      xs.filter fun a => f a = d := by
  apply filter_mergeSort
  · intro a b c hab hbc
    exact le_trans hab hbc
  · intro a b
    exact le_total (f a) (f b)
  · intro a b ha hb
    rw [of_decide_eq_true ha, of_decide_eq_true hb]
    exact le_refl d

/-- In sorted lists with the same things under every identifier the first ones have the least. -/
theorem head_le_of_filter_eq {f : α → Identifier kind} {x y : α} {xs ys : List α}
    (hxs : (x :: xs).Pairwise fun a b => (f a).le (f b) = true)
    (h : ∀ d, (x :: xs).filter (fun a => f a = d) = (y :: ys).filter fun a => f a = d) :
    (f x).le (f y) = true := by
  have hy : y ∈ (x :: xs).filter fun a => f a = f y := by
    rw [h]
    exact List.mem_filter.mpr ⟨List.mem_cons_self, decide_eq_true rfl⟩
  rcases List.mem_cons.mp (List.mem_filter.mp hy).1 with rfl | hy
  · exact le_refl _
  · exact (List.pairwise_cons.mp hxs).1 y hy

/-- A sorted list is told by what it has under every identifier. -/
theorem eq_of_filter_eq {f : α → Identifier kind} {xs ys : List α}
    (hxs : xs.Pairwise fun a b => (f a).le (f b) = true)
    (hys : ys.Pairwise fun a b => (f a).le (f b) = true)
    (h : ∀ d, xs.filter (fun a => f a = d) = ys.filter fun a => f a = d) : xs = ys := by
  induction xs generalizing ys with
  | nil =>
    cases ys with
    | nil => rfl
    | cons y ys => simpa using h (f y)
  | cons x xs ih =>
    cases ys with
    | nil => simpa using h (f x)
    | cons y ys =>
      have hxy : f x = f y :=
        le_antisymm (head_le_of_filter_eq hxs h) (head_le_of_filter_eq hys fun d => (h d).symm)
      have hfirst := h (f x)
      simp only [List.filter_cons, ← hxy, decide_true, ↓reduceIte] at hfirst
      obtain rfl := (List.cons.inj hfirst).1
      congr 1
      apply ih (List.pairwise_cons.mp hxs).2 (List.pairwise_cons.mp hys).2
      intro d
      have hd := h d
      rw [List.filter_cons, List.filter_cons] at hd
      split at hd
      · exact (List.cons.inj hd).2
      · exact hd

/-- Sorting by an identifier forgets everything but what shares one. -/
theorem mergeSort_eq_of_filter {f : α → Identifier kind} {xs ys : List α}
    (h : ∀ d, xs.filter (fun a => f a = d) = ys.filter fun a => f a = d) :
    (xs.mergeSort fun a b => (f a).le (f b)) = ys.mergeSort fun a b => (f a).le (f b) := by
  apply eq_of_filter_eq (pairwise_mergeSort f xs) (pairwise_mergeSort f ys)
  intro d
  rw [mergeSort_filter, mergeSort_filter, h]

end Identifier

end GovernanceIndex
