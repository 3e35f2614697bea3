import GovernanceIndex.Codec
import GovernanceIndex.Time.Timestamp

/-!
The records that the store holds.
-/
namespace GovernanceIndex

/-- The steps of syncing an epoch, in the order in which they run. -/
inductive EpochStep where
  | dreps
  | totals
  | delegators
  deriving DecidableEq, Repr

def EpochStep.names : List (String × EpochStep) :=
  [("dreps", .dreps), ("totals", .totals), ("delegators", .delegators)]

def EpochStep.name : EpochStep → String
  | .dreps => "dreps"
  | .totals => "totals"
  | .delegators => "delegators"

structure EpochCheckpoint where
  epoch : Epoch
  drepsSyncedAt : Option Timestamp := none
  totalsSyncedAt : Option Timestamp := none
  delegatorsSyncedAt : Option Timestamp := none
  deriving DecidableEq, Repr

namespace EpochCheckpoint

def syncedAt (c : EpochCheckpoint) : EpochStep → Option Timestamp
  | .dreps => c.drepsSyncedAt
  | .totals => c.totalsSyncedAt
  | .delegators => c.delegatorsSyncedAt

def isDone (c : EpochCheckpoint) (step : EpochStep) : Bool := (c.syncedAt step).isSome

/-- Marks a step as finished; a step that is finished keeps its time. -/
def mark (c : EpochCheckpoint) (step : EpochStep) (now : Timestamp) : EpochCheckpoint :=
  match step with
  | .dreps => { c with drepsSyncedAt := c.drepsSyncedAt.or (some now) }
  | .totals => { c with totalsSyncedAt := c.totalsSyncedAt.or (some now) }
  | .delegators => { c with delegatorsSyncedAt := c.delegatorsSyncedAt.or (some now) }

/-- Whether every step is finished, the last one only if it is wanted. -/
def isComplete (c : EpochCheckpoint) (includeDelegators : Bool) : Bool :=
  c.isDone .dreps && c.isDone .totals && (!includeDelegators || c.isDone .delegators)

end EpochCheckpoint

structure DelegateSnapshot where
  epoch : Epoch
  delegate : DelegateId
  registered : Bool
  active : Bool
  votingPower : Amount
  deriving DecidableEq, Repr

structure EpochTotals where
  epoch : Epoch
  circulation : Option Amount := none
  treasury : Option Amount := none
  delegatePower : Option Amount := none
  poolPower : Option Amount := none
  deriving DecidableEq, Repr

structure DelegatorSummary where
  epoch : Epoch
  delegate : DelegateId
  count : UInt64
  amount : Amount
  deriving DecidableEq, Repr

/-- The delegate of an address as last observed. -/
structure DelegationState where
  address : StakeAddress
  delegate : DelegateId
  amount : Option Amount := none
  epochObserved : Epoch
  deriving DecidableEq, Repr

structure DelegationChange where
  address : StakeAddress
  source : Option DelegateId := none
  target : DelegateId
  epoch : Epoch
  amount : Option Amount := none
  recordedAt : Timestamp
  deriving DecidableEq, Repr

structure BackfillCursor where
  job : String
  lastAddress : StakeAddress
  processed : UInt64
  total : UInt64
  deriving DecidableEq, Repr

inductive JobResult where
  | success
  | failed
  | expired
  deriving DecidableEq, Repr

def JobResult.names : List (String × JobResult) :=
  [("success", .success), ("failed", .failed), ("expired", .expired)]

def JobResult.name : JobResult → String
  | .success => "success"
  | .failed => "failed"
  | .expired => "expired"

/-- Reads the name of a result, or says that there is none of that name. -/
def JobResult.parse (s : String) : Except String JobResult :=
  match names.lookup s with
  | some r => .ok r
  | none => .error ("unknown job result: " ++ s)

/-- The lock of a job: who runs it until when, and how its last run ended. -/
structure JobLock where
  job : String
  isRunning : Bool := false
  startedAt : Option Timestamp := none
  expiresAt : Option Timestamp := none
  lockedBy : Option WorkerId := none
  lastResult : Option JobResult := none
  errorMessage : Option String := none
  itemsProcessed : Option UInt64 := none
  deriving DecidableEq, Repr

namespace JobLock

/-- Whether the lease of a running job ended strictly before now. -/
def isExpired (l : JobLock) (now : Timestamp) : Bool :=
  l.isRunning && l.expiresAt.any fun t => t.before now

def isHeldBy (l : JobLock) (holder : WorkerId) : Bool :=
  l.isRunning && decide (l.lockedBy = some holder)

end JobLock

def EpochStep.encode (s : EpochStep) : Json := .str s.name

def EpochStep.decode : Json → Decoded EpochStep := Json.decodeName names

def JobResult.encode (r : JobResult) : Json := .str r.name

def JobResult.decode : Json → Decoded JobResult := Json.decodeName names

def EpochCheckpoint.encode (c : EpochCheckpoint) : Json :=
  .obj [("epoch", c.epoch.encode),
    ("dreps_synced_at", .optional Timestamp.encode c.drepsSyncedAt),
    ("totals_synced_at", .optional Timestamp.encode c.totalsSyncedAt),
    ("delegators_synced_at", .optional Timestamp.encode c.delegatorsSyncedAt)]

def EpochCheckpoint.decode (x : Json) : Decoded EpochCheckpoint := do
  let f ← x.fields ["epoch", "dreps_synced_at", "totals_synced_at", "delegators_synced_at"]
  return {
    epoch := ← f.required "epoch" Epoch.decode
    drepsSyncedAt := ← f.nullable "dreps_synced_at" Timestamp.decode
    totalsSyncedAt := ← f.nullable "totals_synced_at" Timestamp.decode
    delegatorsSyncedAt := ← f.nullable "delegators_synced_at" Timestamp.decode }

def DelegateSnapshot.encode (s : DelegateSnapshot) : Json :=
  .obj [("epoch", s.epoch.encode), ("drep_id", s.delegate.encode),
    ("registered", .bool s.registered), ("active", .bool s.active),
    ("voting_power", Amount.encode s.votingPower)]

def DelegateSnapshot.decode (x : Json) : Decoded DelegateSnapshot := do
  let f ← x.fields ["epoch", "drep_id", "registered", "active", "voting_power"]
  return {
    epoch := ← f.required "epoch" Epoch.decode
    delegate := ← f.required "drep_id" (Identifier.decode .delegate)
    registered := ← f.required "registered" Json.decodeBool
    active := ← f.required "active" Json.decodeBool
    votingPower := ← f.required "voting_power" Amount.decode }

def EpochTotals.encode (t : EpochTotals) : Json :=
  .obj [("epoch", t.epoch.encode), ("circulation", .optional Amount.encode t.circulation),
    ("treasury", .optional Amount.encode t.treasury),
    ("drep_voting_power", .optional Amount.encode t.delegatePower),
    ("pool_voting_power", .optional Amount.encode t.poolPower)]

def EpochTotals.decode (x : Json) : Decoded EpochTotals := do
  let f ← x.fields
    ["epoch", "circulation", "treasury", "drep_voting_power", "pool_voting_power"]
  return {
    epoch := ← f.required "epoch" Epoch.decode
    circulation := ← f.nullable "circulation" Amount.decode
    treasury := ← f.nullable "treasury" Amount.decode
    delegatePower := ← f.nullable "drep_voting_power" Amount.decode
    poolPower := ← f.nullable "pool_voting_power" Amount.decode }

def DelegatorSummary.encode (s : DelegatorSummary) : Json :=
  .obj [("epoch", s.epoch.encode), ("drep_id", s.delegate.encode),
    ("delegator_count", .word s.count), ("delegated_amount", Amount.encode s.amount)]

def DelegatorSummary.decode (x : Json) : Decoded DelegatorSummary := do
  let f ← x.fields ["epoch", "drep_id", "delegator_count", "delegated_amount"]
  return {
    epoch := ← f.required "epoch" Epoch.decode
    delegate := ← f.required "drep_id" (Identifier.decode .delegate)
    count := ← f.required "delegator_count" Json.decodeUInt64
    amount := ← f.required "delegated_amount" Amount.decode }

def DelegationState.encode (s : DelegationState) : Json :=
  .obj [("stake_address", s.address.encode), ("drep_id", s.delegate.encode),
    ("amount", .optional Amount.encode s.amount), ("epoch_observed", s.epochObserved.encode)]

def DelegationState.decode (x : Json) : Decoded DelegationState := do
  let f ← x.fields ["stake_address", "drep_id", "amount", "epoch_observed"]
  return {
    address := ← f.required "stake_address" (Identifier.decode .stakeAddress)
    delegate := ← f.required "drep_id" (Identifier.decode .delegate)
    amount := ← f.nullable "amount" Amount.decode
    epochObserved := ← f.required "epoch_observed" Epoch.decode }

def DelegationChange.encode (c : DelegationChange) : Json :=
  .obj [("stake_address", c.address.encode), ("from_drep", .optional Identifier.encode c.source),
    ("to_drep", c.target.encode), ("epoch", c.epoch.encode),
    ("amount", .optional Amount.encode c.amount), ("recorded_at", c.recordedAt.encode)]

def DelegationChange.decode (x : Json) : Decoded DelegationChange := do
  let f ← x.fields ["stake_address", "from_drep", "to_drep", "epoch", "amount", "recorded_at"]
  return {
    address := ← f.required "stake_address" (Identifier.decode .stakeAddress)
    source := ← f.nullable "from_drep" (Identifier.decode .delegate)
    target := ← f.required "to_drep" (Identifier.decode .delegate)
    epoch := ← f.required "epoch" Epoch.decode
    amount := ← f.nullable "amount" Amount.decode
    recordedAt := ← f.required "recorded_at" Timestamp.decode }

def BackfillCursor.encode (c : BackfillCursor) : Json :=
  .obj [("job_name", .str c.job), ("last_address", c.lastAddress.encode),
    ("processed", .word c.processed), ("total", .word c.total)]

def BackfillCursor.decode (x : Json) : Decoded BackfillCursor := do
  let f ← x.fields ["job_name", "last_address", "processed", "total"]
  return {
    job := ← f.required "job_name" Json.decodeText
    lastAddress := ← f.required "last_address" (Identifier.decode .stakeAddress)
    processed := ← f.required "processed" Json.decodeUInt64
    total := ← f.required "total" Json.decodeUInt64 }

def JobLock.encode (l : JobLock) : Json :=
  .obj [("job_name", .str l.job), ("is_running", .bool l.isRunning),
    ("started_at", .optional Timestamp.encode l.startedAt),
    ("expires_at", .optional Timestamp.encode l.expiresAt),
    ("locked_by", .optional Identifier.encode l.lockedBy),
    ("last_result", .optional JobResult.encode l.lastResult),
    ("error_message", .optional Json.str l.errorMessage),
    ("items_processed", .optional Json.word l.itemsProcessed)]

def JobLock.decode (x : Json) : Decoded JobLock := do
  let f ← x.fields ["job_name", "is_running", "started_at", "expires_at", "locked_by",
    "last_result", "error_message", "items_processed"]
  return {
    job := ← f.required "job_name" Json.decodeText
    isRunning := ← f.required "is_running" Json.decodeBool
    startedAt := ← f.nullable "started_at" Timestamp.decode
    expiresAt := ← f.nullable "expires_at" Timestamp.decode
    lockedBy := ← f.nullable "locked_by" (Identifier.decode .worker)
    lastResult := ← f.nullable "last_result" JobResult.decode
    errorMessage := ← f.nullable "error_message" Json.decodeText
    itemsProcessed := ← f.nullable "items_processed" Json.decodeUInt64 }

end GovernanceIndex
