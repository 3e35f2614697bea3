import GovernanceIndex.Store.Tables

/-!
The calls to the store as values, so that a run can be recorded and a call be made to fail. The type
of the result depends on the call. A call that fails leaves the store as it was.
-/
namespace GovernanceIndex

inductive StoreCall where
  | acquireLease (job : String) (holder : WorkerId) (now : Timestamp) (lease : Duration)
  | releaseLease (job : String) (holder : WorkerId) (result : JobResult) (items : Option UInt64)
      (errorMessage : Option String)
  | renewLease (job : String) (holder : WorkerId) (now : Timestamp) (lease : Duration)
  | lock (job : String)
  | checkpoint (epoch : Epoch)
  | checkpoints (first last : Epoch)
  | markStep (epoch : Epoch) (step : EpochStep) (now : Timestamp)
  | putSnapshots (rows : List DelegateSnapshot)
  | snapshots (epoch : Epoch)
  | putTotals (row : EpochTotals)
  | totals (epoch : Epoch)
  | putSummaries (rows : List DelegatorSummary)
  | summaries (epoch : Epoch)
  | stateCount
  | states (addresses : List StakeAddress)
  | applyChanges (changes : List DelegationChange) (states : List DelegationState)
  | applyBackfill (changes : List DelegationChange) (state : Option DelegationState)
      (cursor : BackfillCursor)
  | changes (address : StakeAddress)
  | cursor (job : String)
  | clearCursor (job : String)
  | isBackfillDone (job : String)
  | markBackfillDone (job : String) (now : Timestamp)
  | proposal (id : ProposalId)
  | putProposal (snapshot : ProposalSnapshot)
  deriving Repr

inductive StoreMethod where
  | acquireLease
  | releaseLease
  | renewLease
  | lock
  | checkpoint
  | checkpoints
  | markStep
  | putSnapshots
  | snapshots
  | putTotals
  | totals
  | putSummaries
  | summaries
  | stateCount
  | states
  | applyChanges
  | applyBackfill
  | changes
  | cursor
  | clearCursor
  | isBackfillDone
  | markBackfillDone
  | proposal
  | putProposal
  deriving DecidableEq, Repr

def StoreMethod.names : List (String × StoreMethod) :=
  [("try_acquire_lease", .acquireLease), ("release_lease", .releaseLease),
    ("renew_lease", .renewLease), ("lock_state", .lock), ("checkpoint", .checkpoint),
    ("checkpoints_in_range", .checkpoints), ("mark_step", .markStep),
    ("upsert_drep_snapshots", .putSnapshots), ("drep_snapshots", .snapshots),
    ("upsert_totals", .putTotals), ("totals", .totals),
    ("upsert_delegator_summaries", .putSummaries),
    ("delegator_summaries", .summaries),
    ("delegation_state_count", .stateCount), ("delegation_states", .states),
    ("apply_changes", .applyChanges), ("apply_backfill", .applyBackfill),
    ("change_events", .changes), ("backfill_cursor", .cursor),
    ("clear_backfill_cursor", .clearCursor), ("is_backfill_done", .isBackfillDone),
    ("mark_backfill_done", .markBackfillDone), ("proposal_snapshot", .proposal),
    ("upsert_proposal_snapshot", .putProposal)]

namespace StoreCall

def method : StoreCall → StoreMethod
  | .acquireLease .. => .acquireLease
  | .releaseLease .. => .releaseLease
  | .renewLease .. => .renewLease
  | .lock _ => .lock
  | .checkpoint _ => .checkpoint
  | .checkpoints _ _ => .checkpoints
  | .markStep _ _ _ => .markStep
  | .putSnapshots _ => .putSnapshots
  | .snapshots _ => .snapshots
  | .putTotals _ => .putTotals
  | .totals _ => .totals
  | .putSummaries _ => .putSummaries
  | .summaries _ => .summaries
  | .stateCount => .stateCount
  | .states _ => .states
  | .applyChanges _ _ => .applyChanges
  | .applyBackfill _ _ _ => .applyBackfill
  | .changes _ => .changes
  | .cursor _ => .cursor
  | .clearCursor _ => .clearCursor
  | .isBackfillDone _ => .isBackfillDone
  | .markBackfillDone _ _ => .markBackfillDone
  | .proposal _ => .proposal
  | .putProposal _ => .putProposal

def isWrite : StoreCall → Bool
  | .acquireLease .. | .releaseLease .. | .renewLease .. | .markStep .. | .putSnapshots _
  | .putTotals _ | .putSummaries _ | .applyChanges .. | .applyBackfill .. | .clearCursor _
  | .markBackfillDone .. | .putProposal _ => true
  | _ => false

abbrev Result : StoreCall → Type
  | .acquireLease .. | .releaseLease .. | .renewLease .. => Bool
  | .lock _ => Option JobLock
  | .checkpoint _ => Option EpochCheckpoint
  | .checkpoints _ _ => List EpochCheckpoint
  | .markStep .. | .putSnapshots _ | .putTotals _ | .putSummaries _ => Unit
  | .snapshots _ => List DelegateSnapshot
  | .totals _ => Option EpochTotals
  | .summaries _ => List DelegatorSummary
  | .stateCount => Nat
  | .states _ => Table StakeAddress DelegationState
  | .applyChanges .. | .applyBackfill .. | .clearCursor _ | .markBackfillDone .. => Unit
  | .changes _ => List DelegationChange
  | .cursor _ => Option BackfillCursor
  | .isBackfillDone _ => Bool
  | .proposal _ => Option ProposalSnapshot
  | .putProposal _ => Unit

end StoreCall

/-- What a call does to the store: its result and the store after it, or why it fails. -/
def Store.perform (s : Store) : (c : StoreCall) → Except StoreError (c.Result × Store)
  | .acquireLease job holder now lease => s.acquireLease job holder now lease
  | .releaseLease job holder result items errorMessage =>
    s.releaseLease job holder result items errorMessage
  | .renewLease job holder now lease => s.renewLease job holder now lease
  | .lock job => .ok (s.locks.get? job, s)
  | .checkpoint epoch => .ok (s.checkpoints.get? epoch, s)
  | .checkpoints first last => .ok (s.checkpointsBetween first last, s)
  | .markStep epoch step now => .ok ((), s.markStep epoch step now)
  | .putSnapshots rows => .ok ((), s.putSnapshots rows)
  | .snapshots epoch => .ok (s.snapshotsOf epoch, s)
  | .putTotals row => .ok ((), s.putTotals row)
  | .totals epoch => .ok (s.totals.get? epoch, s)
  | .putSummaries rows => .ok ((), s.putSummaries rows)
  | .summaries epoch => .ok (s.summariesOf epoch, s)
  | .stateCount => .ok (s.states.size, s)
  | .states addresses => .ok (s.statesOf addresses, s)
  | .applyChanges changes states => .ok ((), s.applyChanges changes states)
  | .applyBackfill changes state cursor => .ok ((), s.applyBackfill changes state cursor)
  | .changes address => .ok (s.changesOf address, s)
  | .cursor job => .ok (s.cursors.get? job, s)
  | .clearCursor job => .ok ((), s.clearCursor job)
  | .isBackfillDone job => .ok (s.isBackfillDone job, s)
  | .markBackfillDone job _ => .ok ((), s.markBackfillDone job)
  | .proposal id => .ok (s.proposals.get? id, s)
  | .putProposal snapshot => .ok ((), s.putProposal snapshot)

end GovernanceIndex
