import GovernanceIndex.Number.Word
import GovernanceIndex.Sync.History
import GovernanceIndex.Sync.Inventory
import GovernanceIndex.Sync.Lookup

/-!
Syncing delegations: who delegates to whom, as current states and a log of changes. A cycle observes
the delegators of every delegate with voting power, replays the history of the addresses that have
no state yet, and compares what it observed with the states.

The histories are fetched in batches. Each address is committed with a cursor behind it, and the
backfill stops before a batch when the service says that few requests are left; the addresses that
are skipped then are left alone for the rest of the cycle.
-/
namespace GovernanceIndex

structure Observation where
  delegate : DelegateId
  amount : Amount
  deriving DecidableEq, Repr

/-- What a cycle did. The lookups that failed come in the order in which they ended. -/
structure DelegationsReport where
  epoch : Epoch
  observed : Nat
  duplicateObservations : Nat
  newAddresses : Nat
  fullBackfill : Bool
  backfilled : Nat
  backfillSkipped : Nat
  eventsRecorded : Nat
  statesRefreshed : Nat
  failedEntities : List (DelegateId × String)
  deriving DecidableEq, Repr

structure Backfill where
  processed : List StakeAddress := []
  skipped : List StakeAddress := []
  changes : Nat := 0
  deriving DecidableEq, Repr

/-- The name under which the first backfill of all addresses keeps its cursor. -/
def fullBackfillJob : String := "delegation-full-backfill"

/-- The name under which a backfill of newly observed addresses keeps its cursor. -/
def incrementalBackfillJob : String := "delegation-incremental-backfill"

namespace Observation

/-- The rows of all successful lookups, in the order of the delegates. -/
def reports (found : List Found) : List (StakeAddress × Observation) :=
  let sorted := (Found.successes found).mergeSort fun a b => a.1.le b.1
  sorted.flatMap fun f => f.2.map fun d => (d.address, ⟨f.1, d.amount⟩)

/-- The addresses that were observed, in order, each with the last report on it. -/
def latest (reports : List (StakeAddress × Observation)) : List (StakeAddress × Observation) :=
  (Inventory.latest reports).entries.mergeSort fun a b => a.1.le b.1

def state (epoch : Epoch) (address : StakeAddress) (o : Observation) : DelegationState :=
  { address, delegate := o.delegate, amount := some o.amount, epochObserved := epoch }

end Observation

/-- What is to be written for an address: its new state, and the change if its delegate changed. -/
structure Difference where
  state : DelegationState
  change : Option DelegationChange
  deriving DecidableEq, Repr

namespace Difference

/-- What is to be written for an address that was observed, if anything. -/
def of (epoch : Epoch) (now : Timestamp) (stored : Option DelegationState)
    (address : StakeAddress) (o : Observation) : Option Difference :=
  let next := o.state epoch address
  let changed : DelegationChange :=
    { address
      source := stored.map fun s => s.delegate
      target := o.delegate
      epoch
      amount := some o.amount
      recordedAt := now }
  match stored with
  | none => some ⟨next, some changed⟩
  | some s =>
    if s.delegate ≠ o.delegate then some ⟨next, some changed⟩
    else if s.amount = next.amount ∧ s.epochObserved = epoch then none
    else some ⟨next, none⟩

/-- What is to be written for the addresses that were observed, except for those to be skipped. -/
def all (epoch : Epoch) (now : Timestamp) (stored : StakeAddress → Option DelegationState)
    (skipped : List StakeAddress) (observed : List (StakeAddress × Observation)) :
    List Difference :=
  observed.filterMap fun (a, o) =>
    if skipped.contains a then none else of epoch now (stored a) a o

end Difference

namespace Run

variable {L : Type} [LedgerService L]

/-- Replays and commits the histories of the addresses of a batch one after the other. -/
def backfillBatch (job : String) (total : UInt64) (histories : Table StakeAddress
    (List DelegationUpdate)) : (before : UInt64) → Backfill → List StakeAddress → Run L Backfill
  | _, b, [] => return b
  | before, b, address :: rest => do
    let updates := (histories.get? address).getD []
    let (changes, state) := History.replay address updates (← get).now
    let cursor : BackfillCursor :=
      { job, lastAddress := address, processed := before + 1, total }
    call (.applyBackfill changes state cursor)
    backfillBatch job total histories (before + 1)
      { b with processed := b.processed ++ [address], changes := b.changes + changes.length } rest

def quotaIsLow (c : Settings) : Run L Bool := do
  return (LedgerService.quota (← get).ledger).any fun left => left < c.minQuotaReserve

/-- Backfills batches one after the other as long as the quota allows. -/
def backfillBatches (c : Settings) (job : String) (total : UInt64) :
    (before : UInt64) → Backfill → List (List StakeAddress) → Run L Backfill
  | _, b, [] => return b
  | before, b, batch :: rest => do
    if ← quotaIsLow c then return { b with skipped := (batch :: rest).flatten }
    else
      let histories ← request c (.histories batch)
      let table := Inventory.latest (histories.map fun h => (h.address, h.updates))
      let b ← backfillBatch job total table before b batch
      backfillBatches c job total (before + UInt64.ofNat batch.length) b rest

/-- Backfills addresses under the name of a job. The stored cursor only says how many addresses were
done before; a total that is no word of 64 bits is a crash. -/
def backfill (c : Settings) (job : String) (addresses : List StakeAddress)
    (cursor : Option BackfillCursor) : Run L Backfill := do
  let before := (cursor.map fun k => k.processed).getD 0
  match Word.add64? before addresses.length with
  | none => crash "attempt to add with overflow"
  | some total => do
    let b ← backfillBatches c job total before {} (batches c.historyBatchSize addresses)
    if b.skipped.isEmpty then
      call (.clearCursor job)
      if job = fullBackfillJob then call (.markBackfillDone job (← get).now)
    return b

/-- Whether the backfill is the full one: it was never completed, and it was begun or no address has
a state. With it comes its cursor. -/
def fullBackfill : Run L (Bool × Option BackfillCursor) := do
  let done ← call (.isBackfillDone fullBackfillJob)
  let cursor ← call (.cursor fullBackfillJob)
  if done then return (false, cursor)
  else if cursor.isSome then return (true, cursor)
  else return ((← call .stateCount) == 0, cursor)

/-- Backfills the addresses that have no state: as part of the full backfill, or as new ones. -/
def backfillNew (c : Settings) (addresses : List StakeAddress) : Run L (Bool × Backfill) := do
  let (full, cursor) ← fullBackfill
  if full then return (true, ← backfill c fullBackfillJob addresses cursor)
  else if addresses.isEmpty then return (false, {})
  else
    let cursor ← call (.cursor incrementalBackfillJob)
    return (false, ← backfill c incrementalBackfillJob addresses cursor)

/-- The states of the addresses that a backfill processed, as they are after it. -/
def backfilledStates (b : Backfill) : Run L (Table StakeAddress DelegationState) :=
  if b.processed.isEmpty then return {} else call (.states b.processed)

def writeDifferences (c : Settings) (ds : List Difference) : Run L Unit :=
  (batches c.writeBatchSize ds).forM fun batch =>
    call (.applyChanges (batch.filterMap fun d => d.change) (batch.map fun d => d.state))

def syncDelegations (c : Settings) : Run L DelegationsReport := do
  let epoch ← latestCompleted c
  let targets := Inventory.targets (← inventory c epoch)
  let found ← Lookup.run c c.delegationConcurrency none targets
  let reports := Observation.reports found
  let observed := Observation.latest reports
  let addresses := observed.map Prod.fst
  let stored ← call (.states addresses)
  let new := addresses.filter fun a => (stored.get? a).isNone
  let (full, b) ← backfillNew c new
  let backfilled ← backfilledStates b
  let now := (← get).now
  let differences := Difference.all epoch now (fun a => (backfilled.get? a).or (stored.get? a))
    b.skipped observed
  writeDifferences c differences
  let changes := differences.countP fun d => d.change.isSome
  return {
    epoch
    observed := observed.length
    duplicateObservations := reports.length - observed.length
    newAddresses := new.length
    fullBackfill := full
    backfilled := b.processed.length
    backfillSkipped := b.skipped.length
    eventsRecorded := b.changes + changes
    statesRefreshed := differences.length - changes
    failedEntities := (Found.failures found).map fun f => (f.1, f.2.message) }

end Run

def DelegationsReport.encode (r : DelegationsReport) : Json :=
  .obj [("epoch", r.epoch.encode), ("observed", .nat r.observed),
    ("duplicate_observations", .nat r.duplicateObservations),
    ("new_addresses", .nat r.newAddresses), ("full_backfill", .bool r.fullBackfill),
    ("backfilled", .nat r.backfilled), ("backfill_skipped", .nat r.backfillSkipped),
    ("events_recorded", .nat r.eventsRecorded), ("states_refreshed", .nat r.statesRefreshed),
    ("failed_entities", Json.encodeList
      (fun f => .obj [("drep_id", f.1.encode), ("error", .str f.2)]) r.failedEntities)]

end GovernanceIndex
