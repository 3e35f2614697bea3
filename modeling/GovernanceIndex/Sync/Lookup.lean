import GovernanceIndex.Run.FanOut
import GovernanceIndex.Settings

/-!
Looking up the delegators of many delegates at once.
-/
namespace GovernanceIndex

/-- The delegators of a delegate that are being read. -/
structure Lookup (epoch : Option Epoch) where
  delegate : DelegateId
  read : PageRead (.delegators delegate epoch)

structure Found where
  delegate : DelegateId
  reply : Except LedgerError (List Delegator)

namespace Lookup

variable {L : Type} [LedgerService L] {epoch : Option Epoch}

def start (c : Settings) (epoch : Option Epoch) (delegate : DelegateId) : Lookup epoch :=
  ⟨delegate, .start _ c.retry c.pageSize⟩

def turn (x : Lookup epoch) : Run L (Turn (Lookup epoch) Found) := do
  match ← x.read.turn with
  | .done reply => return .done ⟨x.delegate, reply⟩
  | .goOn read delay => return .goOn ⟨x.delegate, read⟩ delay

/-- Looks up the current delegators of delegates or, where one is given, those of an epoch. What was
found comes in the order in which the lookups ended. -/
def run (c : Settings) (limit : Nat) (epoch : Option Epoch) (delegates : List DelegateId) :
    Run L (List Found) := do
  let f ← FanOut.run limit (fun x => x.read.rank) turn (delegates.map (start c epoch))
  return f.finished.map Prod.snd

end Lookup

namespace Found

def successes (found : List Found) : List (DelegateId × List Delegator) :=
  found.filterMap fun f => f.reply.toOption.map fun rows => (f.delegate, rows)

def failures (found : List Found) : List (DelegateId × LedgerError) :=
  found.filterMap fun f => match f.reply with
    | .ok _ => none
    | .error cause => some (f.delegate, cause)

end Found

end GovernanceIndex
