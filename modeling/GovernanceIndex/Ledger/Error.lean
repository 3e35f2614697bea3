import GovernanceIndex.Time.Duration

/-!
How a request to the ledger service can fail, and which failures are transient. Only a rate limit
carries a hint how long to wait.
-/
namespace GovernanceIndex

inductive LedgerError where
  | timeout (detail : String)
  | rateLimited (retryAfter : Option Duration)
  | server (status : Nat) (detail : String)
  | client (status : Nat) (detail : String)
  | transport (detail : String)
  | decode (detail : String)
  deriving DecidableEq, Repr

namespace LedgerError

/-- The failure behind a status that is no success. -/
def ofStatus (status : Nat) (detail : String) (retryAfter : Option Duration) : LedgerError :=
  if status = 429 then .rateLimited retryAfter
  else if 500 ≤ status ∧ status ≤ 599 then .server status detail
  else .client status detail

/-- Whether the same request may succeed later. -/
def isTransient : LedgerError → Bool
  | .timeout _ | .rateLimited _ | .server _ _ | .transport _ => true
  | .client _ _ | .decode _ => false

def hint : LedgerError → Option Duration
  | .rateLimited retryAfter => retryAfter
  | _ => none

def message : LedgerError → String
  | .timeout detail => "upstream request timed out: " ++ detail
  | .rateLimited _ => "upstream rate limit exceeded"
  | .server status detail => "upstream server error " ++ toString status ++ ": " ++ detail
  | .client status detail => "upstream rejected request " ++ toString status ++ ": " ++ detail
  | .transport detail => "upstream transport error: " ++ detail
  | .decode detail => "malformed upstream payload: " ++ detail

end LedgerError

end GovernanceIndex
