import GovernanceIndex.Proofs.Run.Agreement
import GovernanceIndex.Run.FanOut

/-!
Work on many items in two worlds whose clocks keep their distance. If a turn of an item comes to the
same in both, the same item has each turn, since what is ready first is so at any distance. So items
end in the same order.
-/
namespace GovernanceIndex

variable {L σ ρ : Type} {d d' : Nat}

/-- An item that is ready at the same time by either of two clocks, one of which reads `d` when the
other one reads `d'`. -/
structure InFlight.InPace (d d' : Nat) (x x' : InFlight σ) : Prop where
  work : x'.work = x.work
  readyAt : x.readyAt + d' = x'.readyAt + d

namespace FanOut

/-- Work on the same items, as far as each other, by two clocks. -/
structure InPace (d d' : Nat) (f f' : FanOut σ ρ) : Prop where
  limit : f'.limit = f.limit
  pending : f'.pending = f.pending
  inFlight : List.Forall₂ (InFlight.InPace d d') f.inFlight f'.inFlight
  finished : f'.finished.map Prod.snd = f.finished.map Prod.snd

theorem next?_inPace {xs xs' : List (InFlight σ)} (h : List.Forall₂ (InFlight.InPace d d') xs xs') :
    Option.Rel (fun x x' => x.1.InPace d d' x'.1 ∧ List.Forall₂ (InFlight.InPace d d') x.2 x'.2)
      (next? xs) (next? xs') := by
  induction h with
  | nil => exact .none
  | @cons x x' xs xs' hx hxs ih =>
    unfold next?
    rcases hnext : next? xs with _ | ⟨y, ys⟩ <;> rcases hnext' : next? xs' with _ | ⟨y', ys'⟩ <;>
      rw [hnext, hnext'] at ih
    · exact .some ⟨hx, .nil⟩
    · cases ih
    · cases ih
    · obtain ⟨hy, hys⟩ := Option.rel_some_some.mp ih
      -- Both times are put off by the same distance, so the same item comes first.
      have hsooner : x.readyAt ≤ y.readyAt ↔ x'.readyAt ≤ y'.readyAt := by
        have hready := hx.readyAt
        have hready' : y.readyAt + d' = y'.readyAt + d := hy.readyAt
        omega
      dsimp only
      by_cases hle : x.readyAt ≤ y.readyAt
      · rw [if_pos hle, if_pos (hsooner.mp hle)]
        exact .some ⟨hx, hxs⟩
      · rw [if_neg hle, if_neg (hsooner.not.mp hle)]
        exact .some ⟨hy, .cons hx hys⟩

namespace InPace

variable {f f' : FanOut σ ρ} {clock clock' : Nat}

theorem start (limit : Nat) (items : List σ) :
    InPace d d' (start limit items : FanOut σ ρ) (FanOut.start limit items) := ⟨rfl, rfl, .nil, rfl⟩

theorem taken (h : InPace d d' f f') {others others' : List (InFlight σ)}
    (hothers : List.Forall₂ (InFlight.InPace d d') others others') (peak peak' : Nat) :
    InPace d d' { f with inFlight := others, peak } { f' with inFlight := others', peak := peak' } :=
  ⟨h.limit, h.pending, hothers, h.finished⟩

variable (h : InPace d d' f f') (hclock : clock + d' = clock' + d)
include h hclock

theorem fill : InPace d d' (f.fill clock) (f'.fill clock') := by
  have hlength := h.inFlight.length_eq
  refine ⟨h.limit, ?_, ?_, h.finished⟩
  · unfold FanOut.fill
    rw [h.limit, h.pending, hlength]
  · unfold FanOut.fill
    rw [h.limit, h.pending, hlength]
    apply List.rel_append h.inFlight
    rw [List.forall₂_map_left_iff, List.forall₂_map_right_iff, List.forall₂_same]
    exact fun _ _ => ⟨rfl, hclock⟩

theorem settle {readyAt readyAt' : Nat} (hready : readyAt + d' = readyAt' + d) (turn : Turn σ ρ) :
    InPace d d' (f.settle readyAt clock turn) (f'.settle readyAt' clock' turn) := by
  rcases turn with result | ⟨work, _ | delay⟩
  · refine ⟨h.limit, h.pending, h.inFlight, ?_⟩
    unfold FanOut.settle
    rw [List.map_append, List.map_append, h.finished]
    rfl
  · exact ⟨h.limit, h.pending, .cons ⟨rfl, hready⟩ h.inFlight, h.finished⟩
  · refine ⟨h.limit, h.pending, ?_, h.finished⟩
    apply List.rel_append h.inFlight
    refine .cons ⟨rfl, ?_⟩ .nil
    dsimp only
    omega

end InPace

variable {R : World L → World L → Prop} {turn : σ → Run L (Turn σ ρ)}
  (hclock : ∀ w w', R w w' → w.clock + d' = w'.clock + d)
  (hwait : ∀ time time', time + d' = time' + d →
    Run.Agree R (Run.waitUntil time) (Run.waitUntil time') fun _ _ => True)
  (hturn : ∀ x, Run.Agree R (turn x) (turn x) Eq)
include hclock hwait hturn

theorem step_inPace {f f' : FanOut σ ρ} (h : InPace d d' f f') :
    Run.Agree R (f.step turn) (f'.step turn) (Option.Rel (InPace d d')) := by
  apply Run.Agree.getBind
  intro w w' hw
  have hfilled := h.fill (hclock w w' hw)
  have hnext := next?_inPace hfilled.inFlight
  dsimp only
  rcases hfirst : next? (f.fill w.clock).inFlight with _ | ⟨item, others⟩ <;>
    rcases hfirst' : next? (f'.fill w'.clock).inFlight with _ | ⟨item', others'⟩ <;>
    rw [hfirst, hfirst'] at hnext
  · exact Run.Agree.pure .none
  · cases hnext
  · cases hnext
  · obtain ⟨hitem, hothers⟩ := Option.rel_some_some.mp hnext
    apply Run.Agree.bind (hwait _ _ hitem.readyAt)
    intro _ _ _
    have hwork : item'.work = item.work := hitem.work
    rw [hwork]
    apply Run.Agree.bind (hturn item.work)
    rintro result _ rfl
    apply Run.Agree.getBind
    intro v v' hv
    apply Run.Agree.pure
    exact .some ((hfilled.taken hothers _ _).settle (hclock v v' hv) hitem.readyAt result)

theorem go_inPace (turns : Nat) {f f' : FanOut σ ρ} (h : InPace d d' f f') :
    Run.Agree R (f.go turn turns) (f'.go turn turns) (InPace d d') := by
  induction turns generalizing f f' with
  | zero => exact Run.Agree.pure h
  | succ turns ih =>
    apply Run.Agree.bind (step_inPace hclock hwait hturn h)
    intro next next' hnext
    cases hnext with
    | none => exact Run.Agree.pure h
    | some hnext => exact ih hnext

/-- Items of work come to the same results in both worlds, in the same order. -/
theorem run_inPace (limit : Nat) (size : σ → Nat) (items : List σ) :
    Run.Agree R (run limit size turn items) (run limit size turn items) (InPace d d') :=
  go_inPace hclock hwait hturn _ (.start limit items)

end FanOut

end GovernanceIndex
