import GovernanceIndex.Ledger.Request
import GovernanceIndex.Table

/-!
A ledger service held in memory, for development. It serves the data that it was given, in the
order of the identifiers, and fails on request: once per queued failure of an endpoint, or always
for the delegators of a delegate. A request for histories costs one of the remaining requests.
-/
namespace GovernanceIndex

structure SimulatedLedger where
  tip : Option Epoch := none
  delegates : Table DelegateId DelegateInfo := {}
  delegatePower : Table (Epoch × DelegateId) Amount := {}
  supply : Table Epoch SupplyTotals := {}
  delegated : Table Epoch Amount := {}
  poolPower : Table (Epoch × String) Amount := {}
  delegators : Table DelegateId (List Delegator) := {}
  epochDelegators : Table (Epoch × DelegateId) (List Delegator) := {}
  histories : Table StakeAddress (List DelegationUpdate) := {}
  queuedFailures : Table Endpoint (List LedgerError) := {}
  failingDelegators : Table DelegateId LedgerError := {}
  quota : Option Nat := none

namespace SimulatedLedger

def window {α : Type} (rows : List α) (p : Page) : List α := (rows.drop p.offset).take p.limit

def failNext (s : SimulatedLedger) (e : Endpoint) (cause : LedgerError) : SimulatedLedger :=
  let queue := (s.queuedFailures.get? e).getD [] ++ [cause]
  { s with queuedFailures := s.queuedFailures.insert e queue }

/-- The amounts of an epoch, in the order of their keys. -/
def ofEpoch {κ : Type} (t : Table (Epoch × κ) Amount) (epoch : Epoch) (le : κ → κ → Bool) :
    List (κ × Amount) :=
  ((t.entries.filter fun e => e.1.1 = epoch).map fun e => (e.1.2, e.2)).mergeSort
    fun a b => le a.1 b.1

def rows (s : SimulatedLedger) : (l : Listing) → List l.Row
  | .delegates => (s.delegates.valuesBy Identifier.le).map fun d => ⟨d.delegate, d.registered⟩
  | .delegatePower epoch =>
    (ofEpoch s.delegatePower epoch Identifier.le).map fun e => ⟨e.1, epoch, e.2⟩
  | .poolPower epoch =>
    (ofEpoch s.poolPower epoch fun a b => decide (a ≤ b)).map fun e => ⟨e.1, epoch, e.2⟩
  | .delegators delegate epoch =>
    let atEpoch := epoch.bind fun e => s.epochDelegators.get? (e, delegate)
    (atEpoch.or (s.delegators.get? delegate)).getD []

/-- The permanent failure of a listing, if it has one. -/
def failing? (s : SimulatedLedger) : Listing → Option LedgerError
  | .delegators delegate _ => s.failingDelegators.get? delegate
  | _ => none

/-- The answer to a request when no failure is queued. -/
def answer (s : SimulatedLedger) : (q : Request) → q.Reply
  | .tip =>
    match s.tip with
    | some epoch => .ok ⟨epoch, none, none⟩
    | none => .error (.server 503 "tip not set")
  | .delegateInfo ids => .ok (ids.filterMap s.delegates.get?)
  | .supplyTotals epoch => .ok (s.supply.get? epoch)
  | .delegationTotal epoch => .ok ((s.delegated.get? epoch).map fun a => ⟨epoch, some a⟩)
  | .histories addresses =>
    .ok (addresses.filterMap fun a => (s.histories.get? a).map fun h => ⟨a, h⟩)
  | .page l p =>
    match s.failing? l with
    | some cause => .error cause
    | none => .ok (window (s.rows l) p)

/-- The service after a request that was answered from its data. -/
def spend (s : SimulatedLedger) : Request → SimulatedLedger
  | .histories _ => { s with quota := s.quota.map (· - 1) }
  | _ => s

/-- The reaction to a request: a queued failure of its endpoint, or else its answer. -/
def react (s : SimulatedLedger) (q : Request) : q.Reply × SimulatedLedger :=
  match s.queuedFailures.get? q.endpoint with
  | some (cause :: rest) =>
    (.error cause, { s with queuedFailures := s.queuedFailures.insert q.endpoint rest })
  | _ => (s.answer q, s.spend q)

instance : LedgerService SimulatedLedger where
  react := react
  quota s := s.quota

end SimulatedLedger

end GovernanceIndex
