import GovernanceIndex.Command.Arguments
import GovernanceIndex.Store.Call

/-!
Calls to the store as commands, and their results as JSON.
-/
namespace GovernanceIndex

open Command in
def StoreError.ofCommand (x : Json) : Command StoreError := do
  let message ← withDefault x "message" "" textAt
  match ← text x "kind" with
  | "Conflict" => return .conflict message
  | "NotFound" => return .notFound message
  | "Storage" => return .storage message
  | "Serialization" => return .serialization message
  | _ => throw (.malformed none)

namespace StoreCall

open Command in
def ofCommand (name : String) (x : Json) : Command StoreCall := do
  let job := text x "job"
  match name with
  | "acquire" =>
    return .acquireLease (← job) (← id .worker x "holder") (← time x "now")
      (← durationAt (field x "lease"))
  | "renew" =>
    return .renewLease (← job) (← id .worker x "holder") (← time x "now")
      (← durationAt (field x "lease"))
  | "release" =>
    return .releaseLease (← job) (← id .worker x "holder") (← value x "result" JobResult.decode)
      (← option x "items" wordAt) (← option x "message" textAt)
  | "lock_state" => return .lock (← job)
  | "checkpoint" => return .checkpoint (← epoch x "epoch")
  | "checkpoints" => return .checkpoints (← epoch x "from") (← epoch x "to")
  | "mark" =>
    return .markStep (← epoch x "epoch") (← value x "step" EpochStep.decode) (← time x "now")
  | "put_dreps" =>
    return .putSnapshots (← value x "rows" (Json.decodeList DelegateSnapshot.decode))
  | "dreps" => return .snapshots (← epoch x "epoch")
  | "put_totals" => return .putTotals (← value x "row" EpochTotals.decode)
  | "totals" => return .totals (← epoch x "epoch")
  | "put_summaries" =>
    return .putSummaries (← value x "rows" (Json.decodeList DelegatorSummary.decode))
  | "summaries" => return .summaries (← epoch x "epoch")
  | "state_count" => return .stateCount
  | "states" => return .states (← ids .stakeAddress x "addresses")
  | "apply_changes" =>
    return .applyChanges (← value x "events" (Json.decodeList DelegationChange.decode))
      (← value x "states" (Json.decodeList DelegationState.decode))
  | "apply_backfill" =>
    return .applyBackfill (← value x "events" (Json.decodeList DelegationChange.decode))
      (← value x "state" (Json.decodeOption DelegationState.decode))
      (← value x "cursor" BackfillCursor.decode)
  | "events" => return .changes (← id .stakeAddress x "address")
  | "cursor" => return .cursor (← job)
  | "clear_cursor" => return .clearCursor (← job)
  | "is_done" => return .isBackfillDone (← job)
  | "mark_done" => return .markBackfillDone (← job) (← time x "now")
  | "put_proposal" => return .putProposal (← value x "snapshot" ProposalSnapshot.decode)
  | "proposal" => return .proposal (← id .proposal x "id")
  | _ => throw (.malformed none)

def encodeResult : (c : StoreCall) → c.Result → Json
  | .acquireLease .., b | .releaseLease .., b | .renewLease .., b => .bool b
  | .lock _, l => .optional JobLock.encode l
  | .checkpoint _, c => .optional EpochCheckpoint.encode c
  | .checkpoints _ _, cs => Json.encodeList EpochCheckpoint.encode cs
  | .snapshots _, rows => Json.encodeList DelegateSnapshot.encode rows
  | .totals _, t => .optional EpochTotals.encode t
  | .summaries _, rows => Json.encodeList DelegatorSummary.encode rows
  | .stateCount, n => .nat n
  | .states _, t => Json.encodeList DelegationState.encode (t.valuesBy Identifier.le)
  | .changes _, cs => Json.encodeList DelegationChange.encode cs
  | .cursor _, c => .optional BackfillCursor.encode c
  | .isBackfillDone _, b => .bool b
  | .proposal _, p => .optional ProposalSnapshot.encode p
  | .markStep .., _ | .putSnapshots _, _ | .putTotals _, _ | .putSummaries _, _
  | .applyChanges .., _ | .applyBackfill .., _ | .clearCursor _, _ | .markBackfillDone .., _
  | .putProposal _, _ => .null

end StoreCall

end GovernanceIndex
