import GovernanceIndex.Sync.Inventory
import GovernanceIndex.Sync.Lookup

/-!
Syncing epochs. An epoch is synced in steps, each of which is marked as soon as its data is stored;
a marked step is not run again. A step that fails stays unmarked, and so do the steps behind it.
-/
namespace GovernanceIndex

structure EpochReport where
  epoch : Epoch
  stepsRun : List EpochStep := []
  delegatesWritten : Nat := 0
  summariesWritten : Nat := 0
  deriving DecidableEq, Repr

structure EpochsReport where
  tip : Epoch
  scanned : Nat := 0
  alreadyComplete : Nat := 0
  synced : List Epoch := []
  failed : List (Epoch × String) := []
  deferred : Nat := 0
  deriving DecidableEq, Repr

/-- What a run is to do with a range of epochs: so many are complete, some of the others are synced,
and the rest is left to later runs. -/
structure EpochPlan where
  complete : Nat
  chosen : List Epoch
  deferred : Nat
  deriving DecidableEq, Repr

/-- The plan for epochs of which some are complete: the first incomplete ones are synced, up to the
bound if there is one, but at least one. -/
def EpochPlan.make (epochs : List Epoch) (isComplete : Epoch → Bool) (bound : Option Nat) :
    EpochPlan :=
  let incomplete := epochs.filter fun e => !isComplete e
  let chosen := match bound with
    | some n => incomplete.take (max n 1)
    | none => incomplete
  ⟨epochs.countP isComplete, chosen, incomplete.length - chosen.length⟩

def DelegatorSummary.ofDelegators (epoch : Epoch) (delegate : DelegateId) (rows : List Delegator) :
    DelegatorSummary :=
  { epoch
    delegate
    count := UInt64.ofNat rows.length
    amount := rows.foldl (fun total d => total + d.amount) 0 }

def EpochStep.all : List EpochStep := [.dreps, .totals, .delegators]

/-- Whether a step is to be run: it is not marked, and the last one only if it is wanted at all. -/
def Settings.wants (c : Settings) (p : EpochCheckpoint) (step : EpochStep) : Bool :=
  !p.isDone step && (decide (step ≠ .delegators) || c.includeDelegators)

namespace Run

variable {L : Type} [LedgerService L]

/-- Fetches and stores the inventory of an epoch; the number of its rows. -/
def syncDelegates (c : Settings) (epoch : Epoch) : Run L Nat := do
  let rows ← fetchInventory c epoch
  call (.putSnapshots rows)
  rememberInventory epoch rows
  return rows.length

def syncTotals (c : Settings) (epoch : Epoch) : Run L Unit := do
  let supply ← request c (.supplyTotals epoch)
  let delegated ← request c (.delegationTotal epoch)
  let pools ← listing c (.poolPower epoch)
  call (.putTotals {
    epoch
    circulation := supply.bind fun s => s.circulation
    treasury := supply.bind fun s => s.treasury
    delegatePower := delegated.bind fun d => d.amount
    poolPower := if pools.isEmpty then none else some (pools.foldl (fun total p => total + p.amount) 0) })

/-- Fetches and stores the summaries of the delegators of every delegate with voting power; the
number of summaries. What was fetched is stored even if some lookups failed. -/
def syncDelegators (c : Settings) (epoch : Epoch) : Run L Nat := do
  let targets := Inventory.targets (← inventory c epoch)
  let found ← Lookup.run c c.epochConcurrency (some epoch) targets
  let summaries := (Found.successes found).map fun s => .ofDelegators epoch s.1 s.2
  call (.putSummaries summaries)
  let failed := (Found.failures found).length
  if failed ≠ 0 then fail (.stepIncomplete epoch .delegators failed targets.length)
  return summaries.length

/-- Does the work of a step of an epoch; the number of rows that it stored. -/
def stepWork (c : Settings) (epoch : Epoch) : EpochStep → Run L Nat
  | .dreps => syncDelegates c epoch
  | .totals => do
    syncTotals c epoch
    return 1
  | .delegators => syncDelegators c epoch

/-- Runs a step of an epoch if it is wanted, and marks it; the step with the number of its rows. -/
def runStep (c : Settings) (epoch : Epoch) (p : EpochCheckpoint) (step : EpochStep) :
    Run L (Option (EpochStep × Nat)) :=
  if c.wants p step then do
    let rows ← stepWork c epoch step
    call (.markStep epoch step (← get).now)
    return some (step, rows)
  else return none

/-- Runs steps of an epoch one after the other; those that were wanted. -/
def runSteps (c : Settings) (epoch : Epoch) (p : EpochCheckpoint) :
    List EpochStep → Run L (List (EpochStep × Nat))
  | [] => return []
  | step :: rest => do
    let first ← runStep c epoch p step
    let others ← runSteps c epoch p rest
    return first.toList ++ others

/-- The checkpoint of an epoch, which is empty before the first mark. -/
def checkpoint (epoch : Epoch) : Run L EpochCheckpoint := do
  return (← call (.checkpoint epoch)).getD { epoch }

/-- Runs the steps of an epoch that are not marked. -/
def syncEpoch (c : Settings) (epoch : Epoch) : Run L EpochReport := do
  let p ← checkpoint epoch
  let ran ← runSteps c epoch p EpochStep.all
  return {
    epoch
    stepsRun := ran.map Prod.fst
    delegatesWritten := (ran.lookup .dreps).getD 0
    summariesWritten := (ran.lookup .delegators).getD 0 }

/-- Syncs epochs one after the other; one that fails does not stop the others. -/
def syncEach (c : Settings) : (report : EpochsReport) → List Epoch → Run L EpochsReport
  | report, [] => return report
  | report, epoch :: rest => do
    match ← attempt (syncEpoch c epoch) with
    | .ok _ => syncEach c { report with synced := report.synced ++ [epoch] } rest
    | .error cause =>
      syncEach c { report with failed := report.failed ++ [(epoch, cause.message)] } rest

/-- What is to be done about the epochs before the tip: a report on nothing done yet, and the epochs
to sync, the oldest first. -/
def planEpochs (c : Settings) : Run L (EpochsReport × List Epoch) := do
  let tip ← knownTip c
  match tip.prev? with
  | none => return ({ tip }, [])
  | some last =>
    if last.toNat < c.backfillFrom.toNat then return ({ tip }, [])
    else
      let checkpoints ← call (.checkpoints c.backfillFrom last)
      let complete := (checkpoints.filter fun p => p.isComplete c.includeDelegators).map
        fun p => p.epoch
      let epochs := Epoch.range c.backfillFrom last
      let plan := EpochPlan.make epochs complete.contains c.maxEpochsPerRun
      let report : EpochsReport :=
        { tip
          scanned := epochs.length
          alreadyComplete := plan.complete
          deferred := plan.deferred }
      return (report, plan.chosen)

/-- Syncs the incomplete epochs before the tip. -/
def syncEpochs (c : Settings) : Run L EpochsReport := do
  let (report, epochs) ← planEpochs c
  syncEach c report epochs

end Run

def EpochReport.encode (r : EpochReport) : Json :=
  .obj [("epoch", r.epoch.encode), ("steps_run", Json.encodeList EpochStep.encode r.stepsRun),
    ("dreps_written", .nat r.delegatesWritten),
    ("delegator_summaries_written", .nat r.summariesWritten)]

def EpochsReport.encode (r : EpochsReport) : Json :=
  .obj [("tip", r.tip.encode), ("scanned", .nat r.scanned),
    ("already_complete", .nat r.alreadyComplete),
    ("synced", Json.encodeList Epoch.encode r.synced),
    ("failed", Json.encodeList
      (fun f => .obj [("epoch", f.1.encode), ("error", .str f.2)]) r.failed),
    ("deferred", .nat r.deferred)]

end GovernanceIndex
