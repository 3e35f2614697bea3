import GovernanceIndex.Run.Retry

/-!
Reading a listing page by page until a page is not full. A read proceeds in turns, each of which
sends one request; a turn tells how long to wait until the next one, or that the read is over. So a
read can run on its own or beside other reads.
-/
namespace GovernanceIndex

/-- What a turn of some work came to: an end, or work left to go on with after so many
milliseconds. -/
inductive Turn (σ ρ : Type) where
  | done (result : ρ)
  | goOn (work : σ) (delay : Nat)

/-- A listing that is being read: the rows read so far, the page to read next, how many pages are
left behind it, and which attempt at it comes next. -/
structure PageRead (l : Listing) where
  policy : RetryPolicy
  rows : List l.Row
  page : Page
  pagesLeft : Nat
  attempt : Nat

namespace PageRead

variable {L : Type} {l : Listing}

/-- Offsets are words of 64 bits. -/
def offsets : Nat := Nat.pow 2 64

/-- How many pages behind a page have an offset. -/
def pagesBehind (p : Page) : Nat := (offsets - 1 - p.offset) / p.limit

def start (l : Listing) (policy : RetryPolicy) (pageSize : Nat) : PageRead l :=
  ⟨policy, [], .first pageSize, pagesBehind (.first pageSize), 1⟩

/-- What is left to do, in turns at most. -/
def rank (r : PageRead l) : Nat := r.pagesLeft * r.policy.attempts + (r.policy.attempts - r.attempt)

/-- What the reply to the next request leads to. A full page behind which no page has an offset ends
the read as well; as many rows as there are offsets have been read by then. -/
def receive (r : PageRead l) (reply : Except LedgerError (List l.Row)) :
    Turn (PageRead l) (Except LedgerError (List l.Row)) :=
  match r.policy.next? r.attempt reply with
  | some delay => .goOn { r with attempt := r.attempt + 1 } (Run.waitMillis delay)
  | none =>
    match reply with
    | .error cause => .done (.error cause)
    | .ok batch =>
      let rows := r.rows ++ batch
      match r.pagesLeft with
      | 0 => .done (.ok rows)
      | left + 1 =>
        if r.page.isLast batch.length then .done (.ok rows)
        else .goOn { r with rows, page := r.page.next, pagesLeft := left, attempt := 1 } 0

/-- One turn: a request for the next page. -/
def turn [LedgerService L] (r : PageRead l) :
    Run L (Turn (PageRead l) (Except LedgerError (List l.Row))) := do
  return r.receive (← Run.ask (.page l r.page))

def go [LedgerService L] : (turns : Nat) → PageRead l → Run L (Except LedgerError (List l.Row))
  | 0, r => return .ok r.rows
  | turns + 1, r => do
    match ← r.turn with
    | .done result => return result
    | .goOn r delay => do
      Run.waitUntil ((← get).clock + delay)
      go turns r

end PageRead

def Run.rows {L : Type} [LedgerService L] (policy : RetryPolicy) (pageSize : Nat) (l : Listing) :
    Run L (Except LedgerError (List l.Row)) :=
  let r := PageRead.start l policy pageSize
  r.go (r.rank + 1)

end GovernanceIndex
