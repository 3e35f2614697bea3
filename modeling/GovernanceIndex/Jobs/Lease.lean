import GovernanceIndex.Run.Action

/-!
The leases of a worker. The row in the store decides who holds a lease; a worker that knows to hold
the lease of a job does not ask for it again.

An exclusive run takes the lease of its job, works, and gives the lease up with the outcome, also
when the work fails or crashes. The lease is renewed while the work waits. A run whose time is up
ends where it is, with its lease.
-/
namespace GovernanceIndex

/-- The outcome of an exclusive run that did not halt. -/
inductive JobRun (α : Type) where
  | completed (report : α)
  | alreadyRunning
  deriving DecidableEq, Repr

/-- Reports tell how many items a run processed. -/
class JobReport (α : Type) where
  items : α → Nat

/-- The items that a run processed; none if the job was running already. -/
def JobRun.items {α : Type} [JobReport α] : JobRun α → Nat
  | .completed report => JobReport.items report
  | .alreadyRunning => 0

def JobRun.encode {α : Type} (encode : α → Json) : JobRun α → Json
  | .completed report => .obj [("status", .str "completed"), ("report", encode report)]
  | .alreadyRunning => .obj [("status", .str "already_running")]

def Halt.crashText (text : Option String) : String := text.getD "unknown panic"

namespace Run

variable {L : Type} {α : Type}

def changeHeld (f : List String → List String) : Run L Unit :=
  modify fun w => { w with worker := { w.worker with held := f w.worker.held } }

/-- Takes the lease of a job unless it is held, by this worker or another one. -/
def tryAcquire (job : String) (lease : Duration) : Run L Bool := do
  let w ← get
  if w.worker.held.contains job then return false
  else
    let acquired ← call (.acquireLease job w.worker.id w.now lease)
    if acquired then changeHeld fun held => held.insert job
    return acquired

/-- Gives the lease of a job up and records how the run ended. -/
def release (job : String) (result : JobResult) (items : Option UInt64)
    (errorMessage : Option String) : Run L Unit := do
  changeHeld fun held => held.erase job
  let _ ← call (.releaseLease job (← get).worker.id result items errorMessage)

/-- Gives the lease of a job up after a run that did not succeed, whether or not the store can
record that. -/
def releaseFailed (job : String) (errorMessage : String) : Run L Unit := do
  let _ ← attempt (release job .failed none (some errorMessage))

/-- Extends the lease of a job; whether the worker still holds it. -/
def renew (job : String) (lease : Duration) : Run L Bool := do
  let w ← get
  call (.renewLease job w.worker.id w.now lease)

/-- Does some work while the lease of a job is renewed; what it came to. -/
def whileRenewing (job : String) (lease : Duration) (work : Run L α) :
    Run L (Except Halt α) := do
  modify fun w => { w with heartbeats := w.heartbeats ++ [{ job, lease, start := w.clock }] }
  let result ← outcome work
  modify fun w => { w with heartbeats := w.heartbeats.dropLast }
  return result

/-- Does some work under the lease of a job, unless the job is running already. -/
def exclusive [JobReport α] (job : String) (lease : Duration) (work : Run L α) :
    Run L (JobRun α) := do
  if ← tryAcquire job lease then
    match ← whileRenewing job lease work with
    | .ok report => do
      release job .success (some (UInt64.ofNat (JobReport.items report))) none
      return .completed report
    | .error (.failed cause) => do
      releaseFailed job cause.message
      throw (.failed cause)
    | .error (.crashed text) => do
      releaseFailed job ("panic: " ++ Halt.crashText text)
      throw (.crashed text)
    | .error .timeUp => throw .timeUp
  else return .alreadyRunning

end Run

end GovernanceIndex
