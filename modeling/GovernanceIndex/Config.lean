import GovernanceIndex.Number.Word
import GovernanceIndex.Settings
import GovernanceIndex.Web.SocketAddress

/-!
The configuration of a worker, read from named texts such as the variables of an environment. A name
without a text, or with blanks only, leaves its default in place. The first text that cannot be read
decides what is wrong, in the order in which the names are read.
-/
namespace GovernanceIndex

/-- What is wrong with the text of a name. -/
inductive ConfigFault where
  | number (text : String) (fault : Word.Fault)
  | socketAddress (text : String)
  | strategy (text : String)
  | truthValue (text : String)
  | workerId (cause : DomainError)
  deriving DecidableEq, Repr

structure ConfigError where
  name : String
  fault : ConfigFault
  deriving DecidableEq, Repr

def ConfigFault.detail : ConfigFault → String
  | .number text fault => "invalid value " ++ Text.quoted text ++ ": " ++ fault.message
  | .socketAddress text =>
    "invalid value " ++ Text.quoted text ++ ": invalid socket address syntax"
  | .strategy text => "invalid value " ++ Text.quoted text
  | .truthValue text => "expected a boolean, got " ++ Text.quoted text
  | .workerId cause => cause.message

def ConfigError.message (e : ConfigError) : String := e.name ++ ": " ++ e.fault.detail

/-- A configuration. A worker without a name is given one when it starts; without the address of a
database the store is held in memory; without an interval nothing runs on a schedule. -/
structure Config where
  workerId : Option WorkerId
  settings : Settings
  scheduleInterval : Option Duration
  databaseUrl : Option String
  ledgerUrl : String
  ledgerToken : Option String
  ledgerTimeout : Duration
  bindAddress : Web.SocketAddress
  deriving Repr

namespace Config

abbrev Reading := Except ConfigError

def text? (lookup : String → Option String) (name : String) : Option String :=
  ((lookup name).map Text.trim).filter fun t => t.toList ≠ []

def readOr {α : Type} (lookup : String → Option String) (name : String) (fallback : α)
    (read : String → Except ConfigFault α) : Reading α :=
  match text? lookup name with
  | none => .ok fallback
  | some text => (read text).mapError fun fault => ⟨name, fault⟩

def number (bound : Nat) (text : String) : Except ConfigFault Nat :=
  (Word.read bound text).mapError fun fault => .number text fault

def word32 : String → Except ConfigFault Nat := number (Nat.pow 2 32)

def word64 : String → Except ConfigFault Nat := number (Nat.pow 2 64)

def seconds (text : String) : Except ConfigFault Duration :=
  (word64 text).map fun n => .ofSecs (UInt64.ofNat n)

def millis (text : String) : Except ConfigFault Duration :=
  (word64 text).map fun n => .ofMillis (UInt64.ofNat n)

def strategy (text : String) : Except ConfigFault BackoffStrategy :=
  match BackoffStrategy.names.lookup text with
  | some s => .ok s
  | none => .error (.strategy text)

def socketAddress (text : String) : Except ConfigFault Web.SocketAddress :=
  match Web.SocketAddress.parse? text with
  | some a => .ok a
  | none => .error (.socketAddress text)

def truthValues : List (String × Bool) :=
  [("1", true), ("true", true), ("yes", true), ("on", true),
    ("0", false), ("false", false), ("no", false), ("off", false)]

def truthValue (text : String) : Except ConfigFault Bool :=
  let folded := String.ofList (text.toList.map Char.toLower)
  match truthValues.lookup folded with
  | some b => .ok b
  | none => .error (.truthValue folded)

/-- The policy for a number of attempts: one attempt is never repeated, and at a fixed distance the
base delay is also the longest one. -/
def retryPolicy (attempts : Nat) (s : BackoffStrategy) (baseDelay maxDelay : Duration) :
    RetryPolicy :=
  if attempts ≤ 1 then .noRetry
  else match s with
    | .fixed => .fixed (UInt32.ofNat attempts) baseDelay
    | .exponential => .exponential (UInt32.ofNat attempts) baseDelay maxDelay

def nonzero? (n : Nat) : Option Nat := if n = 0 then none else some n

def ofLookup (lookup : String → Option String) : Reading Config := do
  let read {α : Type} (name : String) (fallback : α) (f : String → Except ConfigFault α) :
      Reading α := readOr lookup name fallback f
  let d : Settings := {}
  let workerId ← read "GOVSYNC_INSTANCE_ID" none fun t =>
    ((Identifier.parse .worker t).map some).mapError .workerId
  let strategy ← read "GOVSYNC_RETRY_STRATEGY" d.retry.strategy strategy
  let attempts ← read "GOVSYNC_RETRY_MAX_ATTEMPTS" d.retry.maxAttempts.toNat word32
  let baseDelay ← read "GOVSYNC_RETRY_BASE_DELAY_MS" d.retry.baseDelay millis
  let maxDelay ← read "GOVSYNC_RETRY_MAX_DELAY_MS" d.retry.maxDelay millis
  let interval ← read "GOVSYNC_SCHEDULE_INTERVAL_SECS" 0 word64
  let ledgerTimeout ← read "GOVSYNC_UPSTREAM_TIMEOUT_SECS" (.ofSecs 30) seconds
  let bindAddress ← read "GOVSYNC_BIND_ADDR" (.v4 [0, 0, 0, 0] 8080) socketAddress
  let epochLease ← read "GOVSYNC_EPOCH_LEASE_SECS" d.epochLease seconds
  let delegationLease ← read "GOVSYNC_DELEGATION_LEASE_SECS" d.delegationLease seconds
  let pageSize ← read "GOVSYNC_PAGE_SIZE" d.pageSize word32
  let infoBatchSize ← read "GOVSYNC_INFO_BATCH_SIZE" d.infoBatchSize word64
  let historyBatchSize ← read "GOVSYNC_HISTORY_BATCH_SIZE" d.historyBatchSize word64
  let writeBatchSize ← read "GOVSYNC_WRITE_BATCH_SIZE" d.writeBatchSize word64
  let epochConcurrency ← read "GOVSYNC_EPOCH_CONCURRENCY" d.epochConcurrency word64
  let delegationConcurrency ←
    read "GOVSYNC_DELEGATION_CONCURRENCY" d.delegationConcurrency word64
  let includeDelegators ←
    read "GOVSYNC_INCLUDE_DELEGATOR_SNAPSHOTS" d.includeDelegators truthValue
  let backfillFrom ← read "GOVSYNC_BACKFILL_FROM_EPOCH" d.backfillFrom.toNat word32
  let maxEpochsPerRun ← read "GOVSYNC_MAX_EPOCHS_PER_RUN" 0 word64
  let minQuotaReserve ← read "GOVSYNC_MIN_QUOTA_RESERVE" d.minQuotaReserve word64
  return {
    workerId
    settings := {
      retry := retryPolicy attempts strategy baseDelay maxDelay
      epochLease, delegationLease, pageSize, infoBatchSize, historyBatchSize, writeBatchSize
      epochConcurrency, delegationConcurrency, includeDelegators
      backfillFrom := ⟨UInt32.ofNat backfillFrom⟩
      maxEpochsPerRun := nonzero? maxEpochsPerRun
      minQuotaReserve }
    scheduleInterval := (nonzero? interval).map fun n => .ofSecs (UInt64.ofNat n)
    databaseUrl := text? lookup "DATABASE_URL"
    ledgerUrl := (text? lookup "GOVSYNC_UPSTREAM_URL").getD "https://api.koios.rest/api/v1"
    ledgerToken := text? lookup "GOVSYNC_UPSTREAM_TOKEN"
    ledgerTimeout
    bindAddress }

end Config

end GovernanceIndex
