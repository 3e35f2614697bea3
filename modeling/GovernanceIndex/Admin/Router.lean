import GovernanceIndex.Admin.Response
import GovernanceIndex.Jobs.Sync
import GovernanceIndex.Text.Split
import GovernanceIndex.Web.Encoding
import GovernanceIndex.Web.RequestTarget

/-!
The admin surface: a health check, the jobs, whose runs are triggered and whose locks are shown, and
the tallies of proposals. Paths are told apart without decoding them.
-/
namespace GovernanceIndex

/-- What a path names. The name of a job, which ends its path, is not empty. -/
inductive Resource where
  | health
  | job (name : String)
  | tally (id : String)
  deriving DecidableEq, Repr

def Resource.ofPath? (path : String) : Option Resource :=
  match Text.splitAt '/' path with
  | ["", "health"] => some .health
  | ["", "admin", "jobs", name] => if name = "" then none else some (.job name)
  | ["", "proposals", id, "tally"] => some (.tally id)
  | _ => none

namespace Run

variable {L : Type} [LedgerService L] {α : Type}

def triggered (job : Job) (encode : α → Json) (run : Run L (JobRun α)) : Run L Response := do
  match ← attempt run with
  | .ok (.completed report) => return .ok ((JobRun.completed report).encode encode)
  | .ok .alreadyRunning =>
    return .problem 409 "conflict" ("job " ++ job.name ++ " is already running")
  | .error cause => return .ofFailure cause

def trigger (c : Settings) : Job → Run L Response
  | .epochSync => triggered .epochSync EpochsReport.encode (runEpochSync c)
  | .delegationSync => triggered .delegationSync DelegationsReport.encode (runDelegationSync c)
  | .fullSync => triggered .fullSync FullReport.encode (runFullSync c)

def showJob (name : String) : Run L Response := do
  if (Job.names.lookup name).isNone then return .notFound ("unknown job " ++ name)
  else
    match ← attempt (jobState name) with
    | .ok (some lock) => return .ok lock.encode
    | .ok none => return .notFound ("job " ++ name ++ " has never run")
    | .error cause => return .ofFailure cause

/-- Shows the tally of a proposal, whose identifier is percent encoded. -/
def showTally (c : Settings) (encoded : String) : Run L Response := do
  match Web.decode encoded with
  | .error _ => return ⟨400, .text "Invalid URL: Invalid UTF-8 in \x60id\x60"⟩
  | .ok text =>
    match Identifier.parse .proposal text with
    | .error cause => return .problem 400 "validation_error" cause.message
    | .ok id =>
      match ← attempt (proposalTally c id) with
      | .ok (some tally) => return .ok tally.encode
      | .ok none => return .notFound ("no ledger snapshot for proposal " ++ id.text)
      | .error cause => return .ofFailure cause

def display (c : Settings) : Resource → Run L Response
  | .health => return ⟨200, .empty⟩
  | .job name => showJob name
  | .tally id => showTally c id

/-- Answers a request about a path. A request for the head of a resource is answered like one for
the resource, without the body. -/
def respondAt (c : Settings) (method path : String) : Run L Response := do
  match Resource.ofPath? path with
  | none => return ⟨404, .empty⟩
  | some resource =>
    if method = "GET" then display c resource
    else if method = "HEAD" then return { ← display c resource with body := .empty }
    else
      match method, resource with
      | "POST", .job name =>
        match Job.names.lookup name with
        | some job => trigger c job
        | none => return ⟨405, .empty⟩
      | _, _ => return ⟨405, .empty⟩

def respond (c : Settings) (method target : String) : Run L Response :=
  match Web.RequestTarget.path? target with
  | none => return ⟨400, .empty⟩
  | some path => respondAt c method path

end Run

end GovernanceIndex
