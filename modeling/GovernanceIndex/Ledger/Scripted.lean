import GovernanceIndex.Ledger.Request

/-!
A ledger service that fails as a list says, request by request, and otherwise knows of nothing.
-/
namespace GovernanceIndex

/-- The failures of the coming requests; behind the list no request fails. -/
structure ScriptedLedger where
  outcomes : List (Option LedgerError)
  deriving DecidableEq, Repr

namespace ScriptedLedger

def nothing : (q : Request) → q.Answer
  | .tip => ⟨⟨0⟩, none, none⟩
  | .delegateInfo _ => []
  | .supplyTotals _ => none
  | .delegationTotal _ => none
  | .histories _ => []
  | .page .delegates _ => []
  | .page (.delegatePower _) _ => []
  | .page (.poolPower _) _ => []
  | .page (.delegators _ _) _ => []

def react (s : ScriptedLedger) (q : Request) : q.Reply × ScriptedLedger :=
  match s.outcomes with
  | some cause :: rest => (.error cause, ⟨rest⟩)
  | none :: rest => (.ok (nothing q), ⟨rest⟩)
  | [] => (.ok (nothing q), s)

instance : LedgerService ScriptedLedger where
  react := react
  quota _ := none

end ScriptedLedger

end GovernanceIndex
