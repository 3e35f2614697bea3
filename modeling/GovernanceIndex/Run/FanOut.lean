import GovernanceIndex.Run.PageRead

/-!
Work on many items at once, with a limit on how many are in flight. Items start in their order as
soon as there is room. Of the items in flight, the one that is ready first has the next turn, of
equally ready ones the one that has waited longer; it keeps its turn until it waits or ends.
-/
namespace GovernanceIndex

/-- An item in flight: when it is ready for its next turn, and whether it has had one. -/
structure InFlight (σ : Type) where
  readyAt : Nat
  begun : Bool
  work : σ

/-- Work on many items: those that have not started, those in flight in the order in which they
began to wait, the results with their times in the order in which items ended, and the most items
that had had a turn without having ended. -/
structure FanOut (σ ρ : Type) where
  limit : Nat
  pending : List σ
  inFlight : List (InFlight σ) := []
  finished : List (Nat × ρ) := []
  peak : Nat := 0

namespace FanOut

variable {L σ ρ : Type}

/-- The limit that is kept: at least one item is in flight. -/
def effectiveLimit (limit : Nat) : Nat := max limit 1

def start (limit : Nat) (items : List σ) : FanOut σ ρ := ⟨effectiveLimit limit, items, [], [], 0⟩

/-- Starts items as long as there is room. -/
def fill (f : FanOut σ ρ) (clock : Nat) : FanOut σ ρ :=
  let room := f.limit - f.inFlight.length
  { f with
    pending := f.pending.drop room
    inFlight := f.inFlight ++ (f.pending.take room).map fun work => ⟨clock, false, work⟩ }

/-- The first of the items that are ready the earliest, and the others. -/
def next? : List (InFlight σ) → Option (InFlight σ × List (InFlight σ))
  | [] => none
  | x :: xs =>
    match next? xs with
    | none => some (x, [])
    | some (y, ys) => if x.readyAt ≤ y.readyAt then some (x, xs) else some (y, x :: ys)

/-- The state after a turn of the item that was taken out of those in flight. -/
def settle (f : FanOut σ ρ) (readyAt clock : Nat) : Turn σ ρ → FanOut σ ρ
  | .done result => { f with finished := f.finished ++ [(clock, result)] }
  | .goOn work 0 => { f with inFlight := ⟨readyAt, true, work⟩ :: f.inFlight }
  | .goOn work delay => { f with inFlight := f.inFlight ++ [⟨clock + delay, true, work⟩] }

/-- The next turn; none is left when no item is in flight or pending. -/
def step (turn : σ → Run L (Turn σ ρ)) (f : FanOut σ ρ) : Run L (Option (FanOut σ ρ)) := do
  let f := f.fill (← get).clock
  match next? f.inFlight with
  | none => return none
  | some (item, others) => do
    Run.waitUntil item.readyAt
    let begun := (others.filter fun other => other.begun).length + 1
    let f := { f with inFlight := others, peak := max f.peak begun }
    let result ← turn item.work
    return some (f.settle item.readyAt (← get).clock result)

/-- Takes turns until none is left, at most so many. -/
def go (turn : σ → Run L (Turn σ ρ)) : (turns : Nat) → FanOut σ ρ → Run L (FanOut σ ρ)
  | 0, f => return f
  | turns + 1, f => do
    match ← f.step turn with
    | none => return f
    | some f => go turn turns f

/-- The turns that are left at most, where `rank` bounds the turns that follow a turn of an item. -/
def rank (rank : σ → Nat) (f : FanOut σ ρ) : Nat :=
  f.pending.foldl (fun turns work => turns + (rank work + 1)) 0 +
    f.inFlight.foldl (fun turns item => turns + (rank item.work + 1)) 0

/-- Works on all items until every one has ended. -/
def run (limit : Nat) (rank : σ → Nat) (turn : σ → Run L (Turn σ ρ)) (items : List σ) :
    Run L (FanOut σ ρ) :=
  let f : FanOut σ ρ := start limit items
  f.go turn (f.rank rank + 1)

end FanOut

end GovernanceIndex
