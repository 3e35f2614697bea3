import GovernanceIndex.Command.Arguments
import GovernanceIndex.Ledger.Simulated

/-!
Requests to the ledger service as commands, and commands that arrange a simulated one.
-/
namespace GovernanceIndex

structure ShownRequest where
  request : Request
  encode : request.Answer → Json

open Command in
/-- The request that a command names; a page holds a thousand rows by default. -/
def ShownRequest.ofCommand (name : String) (x : Json) : Command ShownRequest := do
  let page : Command Page := do
    return ⟨← withDefault x "limit" 1000 natAt, ← withDefault x "offset" 0 natAt⟩
  match name with
  | "tip" => return ⟨.tip, Tip.encode⟩
  | "drep_list" => return ⟨.page .delegates (← page), Json.encodeList ListedDelegate.encode⟩
  | "drep_info" =>
    return ⟨.delegateInfo (← ids .delegate x "ids"), Json.encodeList DelegateInfo.encode⟩
  | "drep_voting_power" =>
    return ⟨.page (.delegatePower (← epoch x "epoch")) (← page),
      Json.encodeList DelegatePower.encode⟩
  | "supply_totals" => return ⟨.supplyTotals (← epoch x "epoch"), .optional SupplyTotals.encode⟩
  | "drep_epoch_summary" =>
    return ⟨.delegationTotal (← epoch x "epoch"), .optional DelegationTotal.encode⟩
  | "pool_voting_power" =>
    return ⟨.page (.poolPower (← epoch x "epoch")) (← page), Json.encodeList PoolPower.encode⟩
  | "drep_delegators" =>
    return ⟨.page (.delegators (← id .delegate x "drep") (← option x "epoch" epochAt)) (← page),
      Json.encodeList Delegator.encode⟩
  | "history" =>
    return ⟨.histories (← ids .stakeAddress x "addresses"),
      Json.encodeList DelegationHistory.encode⟩
  | _ => throw (.malformed none)

open Command in
/-- A failure of the ledger service: of a kind, or behind a status. -/
def LedgerError.ofCommand (x : Json) : Command LedgerError := do
  let message ← withDefault x "message" "" textAt
  let status ← withDefault x "status" 0 natAt
  let retryAfter ← option x "retry_after" durationAt
  match ← text x "kind" with
  | "Timeout" => return .timeout message
  | "RateLimited" => return .rateLimited retryAfter
  | "Server" => return .server status message
  | "Client" => return .client status message
  | "Transport" => return .transport message
  | "Decode" => return .decode message
  | "status" => return .ofStatus status message retryAfter
  | _ => throw (.malformed none)

namespace SimulatedLedger

open Command in
def delegatorAt : Json → Command Delegator
  | .list [address, amount] => return ⟨← idAt .stakeAddress address, ← amountAt amount⟩
  | _ => throw (.malformed none)

open Command in
def ofCommand (name : String) (x : Json) : Command (SimulatedLedger → SimulatedLedger) := do
  match name with
  | "tip" =>
    let tip ← epoch x "epoch"
    return fun s => { s with tip := some tip }
  | "drep" =>
    let delegate ← id .delegate x "drep"
    let registered ← withDefault x "registered" true boolAt
    let active ← withDefault x "active" true boolAt
    let info : DelegateInfo := { delegate, registered, active }
    return fun s => { s with delegates := s.delegates.insert delegate info }
  | "power" =>
    let key := (← epoch x "epoch", ← id .delegate x "drep")
    let power ← amount x "amount"
    return fun s => { s with delegatePower := s.delegatePower.insert key power }
  | "supply" =>
    let epoch ← epoch x "epoch"
    let circulation ← option x "circulation" amountAt
    let treasury ← option x "treasury" amountAt
    return fun s => { s with supply := s.supply.insert epoch { epoch, circulation, treasury } }
  | "summary" =>
    let epoch ← epoch x "epoch"
    let total ← amount x "amount"
    return fun s => { s with delegated := s.delegated.insert epoch total }
  | "pool" =>
    let key := (← epoch x "epoch", ← text x "pool")
    let power ← amount x "amount"
    return fun s => { s with poolPower := s.poolPower.insert key power }
  | "delegators" =>
    let delegate ← id .delegate x "drep"
    let rows ← argument x "delegators" fun y => do (← itemsAt y).mapM delegatorAt
    match ← option x "epoch" epochAt with
    | none => return fun s => { s with delegators := s.delegators.insert delegate rows }
    | some epoch =>
      let key := (epoch, delegate)
      return fun s => { s with epochDelegators := s.epochDelegators.insert key rows }
  | "history" =>
    let address ← id .stakeAddress x "address"
    let updates ← value x "updates" (Json.decodeList DelegationUpdate.decode)
    return fun s => { s with histories := s.histories.insert address updates }
  | "fail_next" =>
    let cause ← LedgerError.ofCommand (field x "err")
    match Endpoint.names.lookup (← text x "endpoint") with
    | some endpoint => return fun s => s.failNext endpoint cause
    | none => throw (.malformed (some "endpoint"))
  | "fail_delegators" =>
    let delegate ← id .delegate x "drep"
    let cause ← LedgerError.ofCommand (field x "err")
    return fun s => { s with failingDelegators := s.failingDelegators.insert delegate cause }
  | "quota" =>
    let quota ← option x "quota" natAt
    return fun s => { s with quota }
  | _ => throw (.malformed none)

end SimulatedLedger

end GovernanceIndex
