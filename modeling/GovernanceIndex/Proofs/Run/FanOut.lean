import GovernanceIndex.Proofs.Run.Contract
import GovernanceIndex.Run.FanOut
import Mathlib.Algebra.GroupWithZero.Nat
import Mathlib.Data.List.Forall2
import Mathlib.Logic.Relation

/-!
Work on many items comes to a result for every item. Every turn leaves less to do, and until the end
each item is pending, in flight or finished, exactly once.
-/
namespace GovernanceIndex

namespace FanOut

variable {L σ ρ κ : Type} {key : σ → κ} {Inv : σ → Prop} {Post : κ → ρ → Prop} {size : σ → Nat}

/-- A turn of an item came to a proper result, or it left less to do of the same item. -/
def Proceeds (key : σ → κ) (Inv : σ → Prop) (Post : κ → ρ → Prop) (size : σ → Nat) (x : σ) :
    Turn σ ρ → Prop
  | .done result => Post (key x) result
  | .goOn work _ => key work = key x ∧ Inv work ∧ size work < size x

/-- Every item is accounted for: it has a proper result, or it is in flight or pending. -/
structure Accounts (key : σ → κ) (Inv : σ → Prop) (Post : κ → ρ → Prop) (keys : List κ)
    (f : FanOut σ ρ) : Prop where
  room : 0 < f.limit
  pending : ∀ x ∈ f.pending, Inv x
  inFlight : ∀ x ∈ f.inFlight, Inv x.work
  all : ∃ finished, List.Forall₂ Post finished (f.finished.map Prod.snd) ∧
    (finished ++ (f.inFlight.map fun x => key x.work) ++ f.pending.map key).Perm keys

theorem rank_eq (f : FanOut σ ρ) :
    f.rank size = (f.pending.map fun x => size x + 1).sum +
      (f.inFlight.map fun x => size x.work + 1).sum := by
  have hfold {α : Type} (g : α → Nat) (xs : List α) (n : Nat) :
      xs.foldl (fun n x => n + g x) n = n + (xs.map g).sum := by
    induction xs generalizing n with
    | nil => rfl
    | cons x xs ih => rw [List.foldl_cons, ih, List.map_cons, List.sum_cons, Nat.add_assoc]
  unfold rank
  rw [hfold fun x => size x + 1, hfold fun x : InFlight σ => size x.work + 1, Nat.zero_add,
    Nat.zero_add]

theorem next?_eq_none {xs : List (InFlight σ)} (h : next? xs = none) : xs = [] := by
  rcases xs with _ | ⟨x, xs⟩
  · rfl
  · rw [next?] at h
    rcases hrest : next? xs with _ | ⟨z, zs⟩ <;> rw [hrest] at h
    · cases h
    · dsimp only at h
      split at h <;> cases h

theorem next?_perm {xs ys : List (InFlight σ)} {y : InFlight σ} (h : next? xs = some (y, ys)) :
    xs.Perm (y :: ys) := by
  induction xs generalizing y ys with
  | nil => cases h
  | cons x xs ih =>
    rw [next?] at h
    rcases hrest : next? xs with _ | ⟨z, zs⟩ <;> rw [hrest] at h
    · cases h
      rw [next?_eq_none hrest]
    · dsimp only at h
      split at h <;> cases h
      · exact List.Perm.refl _
      · exact ((ih hrest).cons x).trans (List.Perm.swap y x zs)

variable {keys : List κ} {f : FanOut σ ρ}

theorem Accounts.fill (h : Accounts key Inv Post keys f) (size : σ → Nat) (clock : Nat) :
    Accounts key Inv Post keys (f.fill clock) ∧ (f.fill clock).rank size = f.rank size := by
  obtain ⟨hroom, hpending, hflight, finished, hpost, hperm⟩ := h
  have hsplit := List.take_append_drop (f.limit - f.inFlight.length) f.pending
  constructor
  · refine ⟨hroom, fun x hx => hpending x (List.mem_of_mem_drop hx), fun x hx => ?_, finished, hpost,
      ?_⟩
    · rcases List.mem_append.mp hx with hx | hx
      · exact hflight x hx
      · obtain ⟨work, hwork, rfl⟩ := List.mem_map.mp hx
        exact hpending work (List.mem_of_mem_take hwork)
    · rw [← hsplit, List.map_append] at hperm
      simpa [FanOut.fill, Function.comp_def] using hperm
  · rw [rank_eq, rank_eq]
    conv_rhs => rw [← hsplit]
    simp only [FanOut.fill, List.map_append, List.sum_append, List.map_map, Function.comp_def]
    omega

theorem Accounts.goOn {inFlight others : List (InFlight σ)} {item : InFlight σ}
    (h : Accounts key Inv Post keys f) (next : InFlight σ) (htaken : f.inFlight.Perm (item :: others))
    (hput : inFlight.Perm (next :: others)) (hkey : key next.work = key item.work)
    (hnext : Inv next.work) (hsize : size next.work < size item.work) (peak : Nat) :
    Accounts key Inv Post keys { f with inFlight, peak } ∧
      ({ f with inFlight, peak } : FanOut σ ρ).rank size < f.rank size := by
  obtain ⟨hroom, hpending, hflight, finished, hpost, hperm⟩ := h
  have hmaps : (inFlight.map fun x => key x.work).Perm (f.inFlight.map fun x => key x.work) := by
    refine (hput.map _).trans (List.Perm.trans ?_ (htaken.map _).symm)
    rw [List.map_cons, List.map_cons, hkey]
  constructor
  · refine ⟨hroom, hpending, fun x hx => ?_, finished, hpost, ?_⟩
    · rcases List.mem_cons.mp (hput.mem_iff.mp hx) with rfl | hx
      · exact hnext
      · exact hflight x (htaken.mem_iff.mpr (List.mem_cons_of_mem item hx))
    · exact ((hmaps.append_left finished).append_right _).trans hperm
  · have htook := (htaken.map fun x => size x.work + 1).sum_nat
    have hleft := (hput.map fun x => size x.work + 1).sum_nat
    rw [List.map_cons, List.sum_cons] at htook hleft
    rw [rank_eq, rank_eq]
    dsimp only
    omega

theorem Accounts.done {others : List (InFlight σ)} {item : InFlight σ}
    (h : Accounts key Inv Post keys f) (htaken : f.inFlight.Perm (item :: others)) {result : ρ}
    (hresult : Post (key item.work) result) (peak clock : Nat) :
    let f' := { f with
      inFlight := others, peak, finished := f.finished ++ [(clock, result)] }
    Accounts key Inv Post keys f' ∧ f'.rank size < f.rank size := by
  obtain ⟨hroom, hpending, hflight, finished, hpost, hperm⟩ := h
  constructor
  · refine ⟨hroom, hpending, fun x hx => ?_, finished ++ [key item.work], ?_, ?_⟩
    · exact hflight x (htaken.mem_iff.mpr (List.mem_cons_of_mem item hx))
    · rw [List.map_append]
      exact List.rel_append hpost (List.Forall₂.cons hresult List.Forall₂.nil)
    · have hmaps := htaken.map fun x => key x.work
      rw [List.append_assoc finished, List.singleton_append]
      exact ((hmaps.symm.append_left finished).append_right _).trans hperm
  · have htook := (htaken.map fun x => size x.work + 1).sum_nat
    rw [List.map_cons, List.sum_cons] at htook
    rw [rank_eq, rank_eq]
    dsimp only
    omega

/-- A turn of an item that was taken out of those in flight leaves less to do. -/
theorem Accounts.settle {item : InFlight σ} {others : List (InFlight σ)}
    (h : Accounts key Inv Post keys f) (htaken : f.inFlight.Perm (item :: others))
    (peak readyAt clock : Nat) {turn : Turn σ ρ}
    (hturn : Proceeds key Inv Post size item.work turn) :
    let f' := { f with inFlight := others, peak }.settle readyAt clock turn
    Accounts key Inv Post keys f' ∧ f'.rank size < f.rank size := by
  rcases turn with result | ⟨work, _ | delay⟩
  · exact h.done htaken hturn peak clock
  · obtain ⟨hkey, hwork, hsize⟩ := hturn
    exact h.goOn ⟨readyAt, true, work⟩ htaken (List.Perm.refl _) hkey hwork hsize peak
  · obtain ⟨hkey, hwork, hsize⟩ := hturn
    exact h.goOn ⟨clock + (delay + 1), true, work⟩ htaken
      (List.perm_append_singleton _ others) hkey hwork hsize peak

/-- One turn of an item in flight, whichever it is and whenever it is ready. -/
inductive Advances (key : σ → κ) (Inv : σ → Prop) (Post : κ → ρ → Prop) (size : σ → Nat) :
    FanOut σ ρ → FanOut σ ρ → Prop where
  | turn {f : FanOut σ ρ} {item : InFlight σ} {others : List (InFlight σ)} {turn : Turn σ ρ}
      (clock readyAt now : Nat) (htaken : (f.fill clock).inFlight.Perm (item :: others))
      (hturn : Proceeds key Inv Post size item.work turn) :
      Advances key Inv Post size f ({ f.fill clock with
        inFlight := others
        peak := max f.peak ((others.filter InFlight.begun).length + 1)
      }.settle readyAt now turn)

theorem Accounts.advances {f' : FanOut σ ρ} (h : Accounts key Inv Post keys f)
    (hturn : Advances key Inv Post size f f') :
    Accounts key Inv Post keys f' ∧ f'.rank size < f.rank size := by
  cases hturn with
  | turn clock readyAt now htaken hturn =>
    obtain ⟨hfilled, hrank⟩ := h.fill size clock
    rw [← hrank]
    exact hfilled.settle htaken _ readyAt now hturn

/-- The turns of items in flight one after the other, in any order. -/
abbrev Schedule (key : σ → κ) (Inv : σ → Prop) (Post : κ → ρ → Prop) (size : σ → Nat) :
    FanOut σ ρ → FanOut σ ρ → Prop :=
  Relation.ReflTransGen (Advances key Inv Post size)

theorem Accounts.schedule {f' : FanOut σ ρ} (h : Accounts key Inv Post keys f)
    (hturns : Schedule key Inv Post size f f') : Accounts key Inv Post keys f' := by
  induction hturns with
  | refl => exact h
  | tail _ hturn ih => exact (ih.advances hturn).1

theorem accounts_start (limit : Nat) {items : List σ} (hitems : ∀ x ∈ items, Inv x) :
    Accounts key Inv Post (items.map key) (start limit items : FanOut σ ρ) :=
  ⟨Nat.lt_of_lt_of_le Nat.one_pos (Nat.le_max_right limit 1), hitems, by simp [start],
    [], List.Forall₂.nil, by simp [start]⟩

theorem Accounts.finished (h : Accounts key Inv Post keys f) (hflight : f.inFlight = [])
    (hpending : f.pending = []) :
    ∃ finished, List.Forall₂ Post finished (f.finished.map Prod.snd) ∧ finished.Perm keys := by
  obtain ⟨-, -, -, finished, hpost, hperm⟩ := h
  rw [hflight, hpending, List.map_nil, List.map_nil, List.append_nil, List.append_nil] at hperm
  exact ⟨finished, hpost, hperm⟩

section

variable {P E : World L → Prop} {turn : σ → Run L (Turn σ ρ)}
  (hwait : ∀ time, Run.Triple P (Run.waitUntil time : Run L Unit) (fun _ => P) E)
  (hturn : ∀ x, Inv x →
    Run.Triple P (turn x) (fun t w => Proceeds key Inv Post size x t ∧ P w) E)
include hwait hturn

theorem step_triple (h : Accounts key Inv Post keys f) :
    Run.Triple P (f.step turn)
      (fun next w => (match next with
        | some f' => Advances key Inv Post size f f'
        | none => f.inFlight = [] ∧ f.pending = []) ∧ P w) E := by
  unfold step
  apply Run.Triple.getBind
  intro w₀
  obtain ⟨hfilled, -⟩ := h.fill size w₀.clock
  dsimp only
  split
  · next hnone =>
    refine Run.Triple.pure fun w hw => ⟨?_, hw.2⟩
    obtain ⟨hflight, htook⟩ := List.append_eq_nil_iff.mp (next?_eq_none hnone)
    have hroom := h.room
    rw [List.map_eq_nil_iff, List.take_eq_nil_iff, hflight, List.length_nil] at htook
    exact ⟨hflight, htook.resolve_left (by omega)⟩
  · next item others hnext =>
    have htaken := next?_perm hnext
    have hitem := hfilled.inFlight item (htaken.mem_iff.mpr List.mem_cons_self)
    apply Run.Triple.bind ((hwait _).pre fun _ hw => hw.2)
    intro _
    apply Run.Triple.bind (hturn item.work hitem)
    intro t
    apply Run.Triple.assuming
    intro ht
    apply Run.Triple.getBind
    intro w
    exact Run.Triple.pure fun w' hw => ⟨.turn w₀.clock item.readyAt w.clock htaken ht, hw.2⟩

theorem go_triple (turns : Nat) (h : Accounts key Inv Post keys f) (hturns : f.rank size < turns) :
    Run.Triple P (f.go turn turns)
      (fun f' w => (Schedule key Inv Post size f f' ∧ f'.inFlight = [] ∧ f'.pending = []) ∧ P w)
      E := by
  induction turns generalizing f with
  | zero => exact absurd hturns (Nat.not_lt_zero _)
  | succ turns ih =>
    apply Run.Triple.bind (step_triple hwait hturn h)
    intro next
    apply Run.Triple.assuming
    intro hnext
    rcases next with _ | f'
    · exact Run.Triple.pure fun w hw => ⟨⟨.refl, hnext⟩, hw⟩
    · obtain ⟨haccounts, hless⟩ := h.advances hnext
      apply (ih haccounts (by omega)).post
      rintro f'' w ⟨⟨hrest, hleft⟩, hw⟩
      exact ⟨⟨.head hnext hrest, hleft⟩, hw⟩

/-- Work on items is a schedule of turns after which nothing is left. -/
theorem run_schedule (limit : Nat) {items : List σ} (hitems : ∀ x ∈ items, Inv x) :
    Run.Triple P (run limit size turn items)
      (fun f w => (Schedule key Inv Post size (start limit items) f ∧ f.inFlight = [] ∧
        f.pending = []) ∧ P w) E :=
  go_triple hwait hturn _ (accounts_start limit hitems) (Nat.lt_succ_self _)

/-- Work on items ends with one proper result for each of them, in some order. -/
theorem run_triple (limit : Nat) {items : List σ} (hitems : ∀ x ∈ items, Inv x) :
    Run.Triple P (run limit size turn items)
      (fun f w => (∃ finished, List.Forall₂ Post finished (f.finished.map Prod.snd) ∧
        finished.Perm (items.map key)) ∧ P w) E := by
  apply (run_schedule hwait hturn limit hitems).post
  rintro f w ⟨⟨hturns, hflight, hpending⟩, hw⟩
  exact ⟨((accounts_start limit hitems).schedule hturns).finished hflight hpending, hw⟩

end

end FanOut

end GovernanceIndex
