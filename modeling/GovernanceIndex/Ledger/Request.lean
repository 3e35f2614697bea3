import GovernanceIndex.Ledger.Error
import GovernanceIndex.Ledger.Payload

/-!
The requests that the ledger service answers. A listing is served in pages; every other request is
answered at once. The type of the answer depends on the request.
-/
namespace GovernanceIndex

/-- A window of a listing: at most `limit` rows from the row `offset` on. -/
structure Page where
  limit : Nat
  offset : Nat
  deriving DecidableEq, Repr

namespace Page

/-- The first page of at most so many rows, but at least one. -/
def first (limit : Nat) : Page := ⟨max limit 1, 0⟩

def next (p : Page) : Page := ⟨p.limit, p.offset + p.limit⟩

/-- Whether a page with so many rows is the last one: it is not full. -/
def isLast (p : Page) (returned : Nat) : Bool := decide (returned < p.limit)

end Page

inductive Listing where
  | delegates
  | delegatePower (epoch : Epoch)
  | poolPower (epoch : Epoch)
  | delegators (delegate : DelegateId) (epoch : Option Epoch)
  deriving DecidableEq, Repr

abbrev Listing.Row : Listing → Type
  | .delegates => ListedDelegate
  | .delegatePower _ => DelegatePower
  | .poolPower _ => PoolPower
  | .delegators _ _ => Delegator

inductive Request where
  | tip
  | delegateInfo (ids : List DelegateId)
  | supplyTotals (epoch : Epoch)
  | delegationTotal (epoch : Epoch)
  | histories (addresses : List StakeAddress)
  | page (listing : Listing) (page : Page)
  deriving DecidableEq, Repr

abbrev Request.Answer : Request → Type
  | .tip => Tip
  | .delegateInfo _ => List DelegateInfo
  | .supplyTotals _ => Option SupplyTotals
  | .delegationTotal _ => Option DelegationTotal
  | .histories _ => List DelegationHistory
  | .page l _ => List l.Row

inductive Endpoint where
  | tip
  | drepList
  | drepInfo
  | drepVotingPower
  | supplyTotals
  | drepEpochSummary
  | poolVotingPower
  | drepDelegators
  | accountDelegationHistory
  deriving DecidableEq, Repr

def Endpoint.names : List (String × Endpoint) :=
  [("tip", .tip), ("drep_list", .drepList), ("drep_info", .drepInfo),
    ("drep_voting_power", .drepVotingPower), ("supply_totals", .supplyTotals),
    ("drep_epoch_summary", .drepEpochSummary), ("pool_voting_power", .poolVotingPower),
    ("drep_delegators", .drepDelegators),
    ("account_delegation_history", .accountDelegationHistory)]

def Endpoint.name (e : Endpoint) : String :=
  ((names.find? fun x => x.2 = e).map Prod.fst).getD ""

def Listing.endpoint : Listing → Endpoint
  | .delegates => .drepList
  | .delegatePower _ => .drepVotingPower
  | .poolPower _ => .poolVotingPower
  | .delegators _ _ => .drepDelegators

def Request.endpoint : Request → Endpoint
  | .tip => .tip
  | .delegateInfo _ => .drepInfo
  | .supplyTotals _ => .supplyTotals
  | .delegationTotal _ => .drepEpochSummary
  | .histories _ => .accountDelegationHistory
  | .page l _ => l.endpoint

abbrev Request.Reply (q : Request) : Type := Except LedgerError q.Answer

/-- A ledger service in a state: what comes back for a request and the state after it, and how many
requests it says are left. -/
class LedgerService (L : Type) where
  react : L → (q : Request) → q.Reply × L
  quota : L → Option Nat

end GovernanceIndex
