import GovernanceIndex.RetryPolicy
import GovernanceIndex.Run.Action

/-!
Requests that are sent again after a transient failure, as often as the policy allows.
-/
namespace GovernanceIndex

namespace RetryPolicy

/-- The delay after which a request is sent again, if its reply to so many attempts calls for
that. -/
def next? {α : Type} (p : RetryPolicy) (attempt : Nat) : Except LedgerError α → Option Duration
  | .ok _ => none
  | .error cause =>
    if cause.isTransient && p.shouldRetry attempt then some (p.delayWithHint attempt cause.hint)
    else none

end RetryPolicy

namespace Run

variable {L : Type} [LedgerService L]

/-- Sends a request for the given attempt, and again as long as the policy allows; `left` bounds the
attempts that may follow. -/
def retryFrom (p : RetryPolicy) (q : Request) : (left attempt : Nat) → Run L q.Reply
  | 0, _ => ask q
  | left + 1, attempt => do
    let reply ← ask q
    match p.next? attempt reply with
    | some delay => do
      wait delay
      retryFrom p q left (attempt + 1)
    | none => return reply

/-- Sends a request until it succeeds, fails for good, or was sent as often as the policy allows. -/
def retry (p : RetryPolicy) (q : Request) : Run L q.Reply := retryFrom p q (p.attempts - 1) 1

end Run

end GovernanceIndex
