import GovernanceIndex.Run.FanOut

/-!
Items that take a known time and then succeed or fail, worked on at once.
-/
namespace GovernanceIndex

structure TimedItem where
  id : Nat
  duration : Nat
  fails : Bool
  deriving DecidableEq, Repr

namespace TimedItem

/-- A turn of an item: it waits for its duration and then ends. -/
def turn {L : Type} (x : TimedItem) : Run L (Turn TimedItem (Nat × Bool)) :=
  match x.duration with
  | 0 => return .done (x.id, x.fails)
  | duration => return .goOn { x with duration := 0 } (min duration Run.longestWait)

/-- Works on items: their ends in order of completion, each with its time and whether it failed. -/
def run {L : Type} (limit : Nat) (items : List TimedItem) :
    Run L (FanOut TimedItem (Nat × Bool)) :=
  FanOut.run limit (fun x => if x.duration = 0 then 0 else 1) turn items

end TimedItem

end GovernanceIndex
