import GovernanceIndex.Jobs.Lease
import GovernanceIndex.Sync.Delegations
import GovernanceIndex.Sync.Epochs

/-!
The jobs: syncing epochs, syncing delegations, and both in one run that shares what was read.
-/
namespace GovernanceIndex

inductive Job where
  | epochSync
  | delegationSync
  | fullSync
  deriving DecidableEq, Repr

def Job.names : List (String × Job) :=
  [("epoch-sync", .epochSync), ("delegation-sync", .delegationSync), ("full-sync", .fullSync)]

def Job.name : Job → String
  | .epochSync => "epoch-sync"
  | .delegationSync => "delegation-sync"
  | .fullSync => "full-sync"

structure FullReport where
  epochs : JobRun EpochsReport
  delegations : JobRun DelegationsReport
  deriving DecidableEq, Repr

/-- The items of a sync of epochs are the epochs synced. -/
instance : JobReport EpochsReport := ⟨fun r => r.synced.length⟩

/-- The items of a sync of delegations are the addresses observed. -/
instance : JobReport DelegationsReport := ⟨fun r => r.observed⟩

/-- The items of a full sync are those of its parts. -/
instance : JobReport FullReport := ⟨fun r => r.epochs.items + r.delegations.items⟩

def FullReport.encode (r : FullReport) : Json :=
  .obj [("epochs", r.epochs.encode EpochsReport.encode),
    ("delegations", r.delegations.encode DelegationsReport.encode)]

namespace Run

variable {L : Type} [LedgerService L] {α : Type}

def forgetting (work : Run L α) : Run L α := do
  modify fun w => { w with cache := {} }
  work

def epochJob (c : Settings) : Run L (JobRun EpochsReport) :=
  exclusive Job.epochSync.name c.epochLease (syncEpochs c)

def delegationJob (c : Settings) : Run L (JobRun DelegationsReport) :=
  exclusive Job.delegationSync.name c.delegationLease (syncDelegations c)

def runEpochSync (c : Settings) : Run L (JobRun EpochsReport) := forgetting (epochJob c)

def runDelegationSync (c : Settings) : Run L (JobRun DelegationsReport) :=
  forgetting (delegationJob c)

/-- Runs both syncs, each under its own lease as well; its lease covers both. -/
def runFullSync (c : Settings) : Run L (JobRun FullReport) :=
  match c.epochLease.add? c.delegationLease with
  | none => crash "overflow when adding durations"
  | some lease =>
    exclusive Job.fullSync.name lease <| forgetting do
      let epochs ← epochJob c
      let delegations ← delegationJob c
      return { epochs, delegations }

def jobState (job : String) : Run L (Option JobLock) := call (.lock job)

def proposalTally (c : Settings) (id : ProposalId) : Run L (Option ProposalTally) := do
  return (← call (.proposal id)).map fun s => ProposalTally.ofSnapshot s c.thresholds c.cutover

/-- How late a tick may be before ticks are left out, in milliseconds. -/
def tickTolerance : Nat := 5

/-- When the tick after a tick is due that was due at one time and taken at another. -/
def nextTick (period due taken : Nat) : Nat :=
  if taken ≤ due + tickTolerance then due + period
  else taken + period - (taken - due) % period

/-- Runs a full sync at every tick, for so many ticks at most. -/
def scheduleFrom (c : Settings) (period : Nat) : (ticks due : Nat) → Run L Unit
  | 0, _ => return ()
  | ticks + 1, due => do
    waitUntil due
    let taken := (← get).clock
    let _ ← attempt (runFullSync c)
    scheduleFrom c period ticks (nextTick period due taken)

/-- Runs full syncs a period apart, from now until the given time has passed, which is a wait; times
are in milliseconds. -/
def schedule (c : Settings) (period length : Nat) : Run L Unit :=
  if period = 0 then crash "\x60period\x60 must be non-zero."
  else do
    let start := (← get).clock
    let length := min length longestWait
    modify fun w => { w with deadline := some (start + length) }
    let result ← outcome (scheduleFrom c period (length / period + 2) start)
    modify fun w => { w with deadline := none }
    match result with
    | .error .timeUp | .ok () => return ()
    | .error halt => throw halt

end Run

end GovernanceIndex
