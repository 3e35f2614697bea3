import GovernanceIndex.Sync.Error
import GovernanceIndex.Text.Quoted

/-!
The responses of the admin surface. A response that reports a problem is a record of an error code
and a message.
-/
namespace GovernanceIndex

/-- The body of a response. -/
inductive ResponseBody where
  | empty
  | json (value : Json)
  | text (s : String)

structure Response where
  status : Nat
  body : ResponseBody := .empty

namespace Response

def ok (value : Json) : Response := ⟨200, .json value⟩

def problem (status : Nat) (code message : String) : Response :=
  ⟨status, .json (.obj [("error", .str code), ("message", .str message)])⟩

def notFound (message : String) : Response := problem 404 "not_found" message

def ofFailure (cause : SyncError) : Response :=
  match cause with
  | .store (.conflict detail) => problem 409 "conflict" detail
  | .store (.notFound detail) => notFound detail
  | .store _ => problem 500 "store_error" cause.message
  | .ledger (.timeout _) | .ledger (.rateLimited _) =>
    problem 503 "upstream_unavailable" cause.message
  | .ledger _ => problem 502 "upstream_error" cause.message
  | .stepIncomplete .. => problem 502 "sync_incomplete" cause.message
  | .noCompletedEpoch _ => problem 503 "no_completed_epoch" cause.message

end Response

end GovernanceIndex
