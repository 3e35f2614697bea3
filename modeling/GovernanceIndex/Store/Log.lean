import GovernanceIndex.Store.Call

/-!
The record of a write: the name of its method, and what was written in short.
-/
namespace GovernanceIndex

def StoreMethod.name (m : StoreMethod) : String :=
  ((names.find? fun e => e.2 = m).map Prod.fst).getD ""

namespace StoreCall

/-- What a write wrote, in short. -/
def detail : StoreCall → Json
  | .acquireLease job holder _ lease | .renewLease job holder _ lease =>
    .list [.str job, holder.encode, .nat lease.secs]
  | .releaseLease job holder result items errorMessage =>
    .list [.str job, holder.encode, result.encode, .optional Json.word items,
      .optional Json.str errorMessage]
  | .markStep epoch step _ => .list [epoch.encode, step.encode]
  | .putSnapshots rows => .nat rows.length
  | .putTotals row => row.epoch.encode
  | .putSummaries rows => .nat rows.length
  | .applyChanges appended stored => .list [.nat appended.length, .nat stored.length]
  | .applyBackfill appended state reached =>
    .list [.nat appended.length, .bool state.isSome, reached.lastAddress.encode,
      .word reached.processed, .word reached.total]
  | .clearCursor job | .markBackfillDone job _ => .str job
  | .putProposal snapshot => snapshot.proposalId.encode
  | _ => .null

def encode (c : StoreCall) : Json := .list [.str c.method.name, c.detail]

end StoreCall

end GovernanceIndex
