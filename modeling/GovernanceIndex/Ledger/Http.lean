import GovernanceIndex.Json.Reader
import GovernanceIndex.Ledger.Request
import GovernanceIndex.Number.Word
import GovernanceIndex.Text.Blank
import GovernanceIndex.Web.RequestTarget
import GovernanceIndex.Web.Url.Reader

/-!
The ledger service over HTTP. Each request becomes one exchange with the service; the remaining
quota is what the most recent response with a readable quota header said, whatever its status and
body. Requests for no identifiers are answered without an exchange.
-/
namespace GovernanceIndex

structure HttpRequest where
  method : String
  url : Web.Url
  headers : List (String × String)
  body : Option Json

/-- Why a request is not sent: it cannot be made up, or its address is not one of a server. -/
inductive HttpRequest.Fault where
  | unusable
  | address (url : Web.Url)
  deriving DecidableEq, Repr

def HttpRequest.Fault.message : HttpRequest.Fault → String
  | .unusable => "builder error"
  | .address url => "builder error for url (" ++ url.render ++ ")"

structure HttpResponse where
  status : Nat
  headers : List (String × String)
  body : String
  deriving DecidableEq, Repr

/-- How an exchange with the service can end. -/
inductive Exchange where
  | answered (response : HttpResponse)
  | unreachable
  | closed
  | timedOut
  deriving DecidableEq, Repr

/-- A connection in a state: how an exchange ends, and the connection after it. -/
class Connection (C : Type) where
  exchange : C → HttpRequest → Exchange × C

structure HttpLedger (C : Type) where
  base : String
  token : Option String
  quota : Option UInt64
  connection : C

namespace HttpResponse

/-- The value of the first header with a name, if it is printable ASCII. -/
def header? (r : HttpResponse) (name : String) : Option String :=
  match r.headers.find? fun h => h.1.toList.map Char.toLower = name.toList with
  | some (_, value) =>
    if value.toList.all fun c => c = '\t' || Web.isPrintable c || c = ' ' then some value
    else none
  | none => none

/-- A header that holds a number of 64 bits, blanks around it aside. -/
def number? (r : HttpResponse) (name : String) : Option UInt64 :=
  (r.header? name).bind fun value => (Word.read64 (Text.trim value)).toOption

def retryAfter (r : HttpResponse) : Option Duration :=
  (r.number? "retry-after").map Duration.ofSecs

def quota (r : HttpResponse) : Option UInt64 := r.number? "x-ratelimit-remaining"

def isSuccess (r : HttpResponse) : Bool := decide (200 ≤ r.status) && decide (r.status ≤ 299)

end HttpResponse

namespace HttpLedger

/-- The longest detail of a failure, in characters. -/
def detailLength : Nat := 512

def unknownQuota : UInt64 := 18446744073709551615

def pagePairs (p : Page) : List (String × String) :=
  [("limit", toString p.limit), ("offset", toString p.offset)]

def epochPair (e : Epoch) : String × String := ("_epoch_no", toString e.toNat)

def listingPath : Listing → String
  | .delegates => "drep_list"
  | .delegatePower _ => "drep_voting_power_history"
  | .poolPower _ => "pool_voting_power_history"
  | .delegators _ _ => "drep_delegators"

def path : Request → String
  | .tip => "tip"
  | .delegateInfo _ => "drep_info"
  | .supplyTotals _ => "totals"
  | .delegationTotal _ => "drep_epoch_summary"
  | .histories _ => "account_delegation_history"
  | .page l _ => listingPath l

/-- The pairs of a listing behind those of the page. -/
def listingPairs : Listing → List (String × String)
  | .delegates => []
  | .delegatePower e | .poolPower e => [epochPair e]
  | .delegators d e => ("_drep_id", d.text) :: (e.map epochPair).toList

def pairs : Request → List (String × String)
  | .supplyTotals e | .delegationTotal e => [epochPair e]
  | .page l p => pagePairs p ++ listingPairs l
  | _ => []

def body : Request → Option Json
  | .delegateInfo ids => some (.obj [("_drep_ids", Json.encodeList Identifier.encode ids)])
  | .histories addresses =>
    some (.obj [("_stake_addresses", Json.encodeList Identifier.encode addresses)])
  | _ => none

def decodeRows (l : Listing) : Json → Decoded (List l.Row) :=
  match l with
  | .delegates => Json.decodeList ListedDelegate.decode
  | .delegatePower _ => Json.decodeList DelegatePower.decode
  | .poolPower _ => Json.decodeList PoolPower.decode
  | .delegators _ _ => Json.decodeList Delegator.decode

/-- Decodes the answer to a request; single answers are the first of a list. -/
def decodeAnswer (q : Request) (text : String) : q.Reply :=
  let undecodable : LedgerError := .decode (path q ++ ": error decoding response body")
  match Json.parse? text with
  | none => .error undecodable
  | some x =>
    match q with
    | .tip =>
      match Json.decodeList Tip.decode x with
      | .ok (t :: _) => .ok t
      | .ok [] => .error (.decode "tip: empty response")
      | .error _ => .error undecodable
    | .delegateInfo _ => (Json.decodeList DelegateInfo.decode x).mapError fun _ => undecodable
    | .supplyTotals _ =>
      ((Json.decodeList SupplyTotals.decode x).map List.head?).mapError fun _ => undecodable
    | .delegationTotal _ =>
      ((Json.decodeList DelegationTotal.decode x).map List.head?).mapError fun _ => undecodable
    | .histories _ => (Json.decodeList DelegationHistory.decode x).mapError fun _ => undecodable
    | .page l _ => (decodeRows l x).mapError fun _ => undecodable

def ofResponse (q : Request) (r : HttpResponse) : q.Reply :=
  if r.isSuccess then decodeAnswer q r.body
  else .error (.ofStatus r.status (String.ofList (r.body.toList.take detailLength)) r.retryAfter)

def isHeaderText (s : String) : Bool :=
  s.toList.all fun c => c = '\t' || (decide (0x20 ≤ c.toNat) && c.toNat ≠ 0x7F)

variable {C : Type}

/-- Whether a request can be sent to an address: it is one of a server, and a request can name it
as its target. -/
def isServed (url : Web.Url) : Bool :=
  (url.scheme = "http" || url.scheme = "https") && (Web.RequestTarget.path? url.render).isSome

/-- The exchange for a request, if it can take place. -/
def request (h : HttpLedger C) (q : Request) : Except HttpRequest.Fault HttpRequest := do
  let base := (h.base.toList.reverse.dropWhile (· = '/')).reverse
  let url ← (Web.Url.parse (String.ofList base ++ "/" ++ path q)).mapError fun _ => .unusable
  if url.host.isNone then throw (.address url)
  if !h.token.all isHeaderText then throw .unusable
  let content := body q
  let url := url.withoutUser
  let url := if content.isSome then url else url.withPairs (pairs q)
  if !isServed url then throw (.address url)
  let authorization := (h.token.map fun t => ("authorization", "Bearer " ++ t)).toList
  let contentType := if content.isSome then [("content-type", "application/json")] else []
  return {
    method := if content.isSome then "POST" else "GET"
    url
    headers := authorization ++ contentType ++ [("user-agent", "govsync/0.1.0")]
    body := content }

def note (h : HttpLedger C) (r : HttpResponse) : HttpLedger C :=
  { h with quota := r.quota.or h.quota }

def send [Connection C] (h : HttpLedger C) (q : Request) : q.Reply × HttpLedger C :=
  match h.request q with
  | .error fault => (.error (.transport fault.message), h)
  | .ok sent =>
    let (exchange, connection) := Connection.exchange h.connection sent
    let h := { h with connection }
    let failed := "error sending request for url (" ++ sent.url.render ++ ")"
    match exchange with
    | .answered r => (ofResponse q r, h.note r)
    | .unreachable | .closed => (.error (.transport failed), h)
    | .timedOut => (.error (.timeout failed), h)

def react [Connection C] (h : HttpLedger C) : (q : Request) → q.Reply × HttpLedger C
  | .delegateInfo [] => (.ok [], h)
  | .histories [] => (.ok [], h)
  | q => h.send q

def remaining (h : HttpLedger C) : Option Nat :=
  match h.quota with
  | some n => if n = unknownQuota then none else some n.toNat
  | none => none

instance [Connection C] : LedgerService (HttpLedger C) where
  react := react
  quota := remaining

end HttpLedger

/-- A connection whose exchanges end as listed, with the requests that reached the service; behind
the list the service is unreachable. -/
structure ScriptedConnection where
  exchanges : List Exchange
  reached : List HttpRequest

instance : Connection ScriptedConnection where
  exchange c sent :=
    match c.exchanges with
    | [] => (.unreachable, c)
    | .unreachable :: rest => (.unreachable, ⟨rest, c.reached⟩)
    | exchange :: rest => (exchange, ⟨rest, c.reached ++ [sent]⟩)

end GovernanceIndex
