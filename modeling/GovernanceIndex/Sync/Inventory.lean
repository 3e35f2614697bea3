import GovernanceIndex.Run.PageRead
import GovernanceIndex.Settings

/-!
The inventory of an epoch: every delegate that is listed or has voting power, with its flags and its
power. The last report on a delegate counts; of a delegate that is listed twice the first entry
takes the power. Inventories and the tip are read at most once within a job.
-/
namespace GovernanceIndex

namespace Inventory

/-- The last value reported for each key. -/
def latest {κ ν : Type} [DecidableEq κ] (reports : List (κ × ν)) : Table κ ν :=
  reports.foldl (fun t r => t.insert r.1 r.2) {}

def listedRow (epoch : Epoch) (infos : Table DelegateId DelegateInfo)
    (powers : Table DelegateId Amount) (entry : ListedDelegate) : DelegateSnapshot :=
  let info := infos.get? entry.delegate
  { epoch
    delegate := entry.delegate
    registered := (info.map fun i => i.registered).getD entry.registered
    active := (info.map fun i => i.active).getD false
    votingPower := (powers.get? entry.delegate).getD 0 }

/-- The rows of the listed delegates and, behind them, those of the delegates that have power
without being listed. -/
def rows (epoch : Epoch) (infos : Table DelegateId DelegateInfo) :
    (powers : Table DelegateId Amount) → List ListedDelegate → List DelegateSnapshot
  | powers, [] => powers.entries.map fun (delegate, votingPower) =>
    let registered := delegate.isPredefined
    { epoch, delegate, registered, active := registered, votingPower }
  | powers, entry :: rest =>
    listedRow epoch infos powers entry :: rows epoch infos (powers.erase entry.delegate) rest

/-- The inventory of an epoch, in the order of the delegates. -/
def merge (epoch : Epoch) (listed : List ListedDelegate) (infos : List DelegateInfo)
    (powers : List DelegatePower) : List DelegateSnapshot :=
  let infos := latest (infos.map fun i => (i.delegate, i))
  let powers := latest (powers.map fun p => (p.delegate, p.amount))
  (rows epoch infos powers listed).mergeSort fun a b => a.delegate.le b.delegate

def targets (rows : List DelegateSnapshot) : List DelegateId :=
  (rows.filter fun r => r.votingPower ≠ 0).map fun r => r.delegate

end Inventory

/-- What is fetched of the delegates for the inventory of an epoch. -/
structure FetchedDelegates where
  listed : List ListedDelegate
  infos : List DelegateInfo
  powers : List DelegatePower
  deriving DecidableEq, Repr

def FetchedDelegates.inventory (f : FetchedDelegates) (epoch : Epoch) : List DelegateSnapshot :=
  Inventory.merge epoch f.listed f.infos f.powers

namespace Run

variable {L : Type} [LedgerService L]

def request (c : Settings) (q : Request) : Run L q.Answer := do answer (← retry c.retry q)

def listing (c : Settings) (l : Listing) : Run L (List l.Row) := do
  match ← rows c.retry c.pageSize l with
  | .ok rows => return rows
  | .error cause => fail (.ledger cause)

def tip (c : Settings) : Run L Epoch := do return (← request c .tip).epoch

/-- What is known of delegates, requested in batches. -/
def delegateInfo (c : Settings) (ids : List DelegateId) : Run L (List DelegateInfo) := do
  let infos ← (batches c.infoBatchSize ids).mapM fun batch => request c (.delegateInfo batch)
  return infos.flatten

def fetchDelegates (c : Settings) (epoch : Epoch) : Run L FetchedDelegates := do
  let listed ← listing c .delegates
  let infos ← delegateInfo c (listed.map fun d => d.delegate)
  let powers ← listing c (.delegatePower epoch)
  return ⟨listed, infos, powers⟩

/-- The inventory of an epoch from the ledger service. -/
def fetchInventory (c : Settings) (epoch : Epoch) : Run L (List DelegateSnapshot) := do
  return (← fetchDelegates c epoch).inventory epoch

def rememberInventory (epoch : Epoch) (rows : List DelegateSnapshot) : Run L Unit :=
  modify fun w =>
    { w with cache := { w.cache with inventories := w.cache.inventories.insert epoch rows } }

def knownTip (c : Settings) : Run L Epoch := do
  match (← get).cache.tip with
  | some epoch => return epoch
  | none => do
    let epoch ← tip c
    modify fun w => { w with cache := { w.cache with tip := some epoch } }
    return epoch

def latestCompleted (c : Settings) : Run L Epoch := do
  let tip ← knownTip c
  match tip.prev? with
  | some epoch => return epoch
  | none => fail (.noCompletedEpoch tip)

/-- The inventory of an epoch: as remembered, or as stored, or from the ledger service. -/
def inventory (c : Settings) (epoch : Epoch) : Run L (List DelegateSnapshot) := do
  match (← get).cache.inventories.get? epoch with
  | some rows => return rows
  | none => do
    let stored ← call (.snapshots epoch)
    let rows ← if stored.isEmpty then fetchInventory c epoch else pure stored
    rememberInventory epoch rows
    return rows

end Run

end GovernanceIndex
