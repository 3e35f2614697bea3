import GovernanceIndex.Store.Error
import GovernanceIndex.Store.Record
import GovernanceIndex.Table
import GovernanceIndex.Tally.Proposal

/-!
The store: its tables, and what each operation does to them. Only the lease operations can fail,
and a failing operation changes nothing.
-/
namespace GovernanceIndex

/-- The tables of the store. The change log is in the order in which changes were appended. -/
structure Store where
  locks : Table String JobLock := {}
  checkpoints : Table Epoch EpochCheckpoint := {}
  snapshots : Table (Epoch × DelegateId) DelegateSnapshot := {}
  totals : Table Epoch EpochTotals := {}
  summaries : Table (Epoch × DelegateId) DelegatorSummary := {}
  states : Table StakeAddress DelegationState := {}
  changes : List DelegationChange := []
  cursors : Table String BackfillCursor := {}
  finishedBackfills : List String := []
  proposals : Table ProposalId ProposalSnapshot := {}
  deriving Repr

namespace Store

/-- When a lease that starts now ends. -/
def leaseEnd (now : Timestamp) (lease : Duration) : Except StoreError Timestamp :=
  match now.add? lease with
  | some t => .ok t
  | none => .error (.storage ("lease out of range: " ++ lease.text))

/-- Takes the lease of a job if no worker holds a live one. A lease that ran out is recorded as
expired first. -/
def acquireLease (s : Store) (job : String) (holder : WorkerId) (now : Timestamp)
    (lease : Duration) : Except StoreError (Bool × Store) := do
  let expiresAt ← leaseEnd now lease
  let row := (s.locks.get? job).getD { job }
  let row :=
    if row.isExpired now then { row with isRunning := false, lastResult := some .expired } else row
  let taken : JobLock :=
    { row with
      isRunning := true, startedAt := some now, expiresAt := some expiresAt,
      lockedBy := some holder }
  if row.isRunning then return (false, s)
  else return (true, { s with locks := s.locks.insert job taken })

/-- Gives the lease of a job up and records how the run ended, unless another worker holds it. -/
def releaseLease (s : Store) (job : String) (holder : WorkerId) (result : JobResult)
    (items : Option UInt64) (errorMessage : Option String) : Except StoreError (Bool × Store) :=
  match s.locks.get? job with
  | none => .error (.notFound ("job lock " ++ job))
  | some row =>
    if row.isRunning && !row.isHeldBy holder then .ok (false, s)
    else
      let released : JobLock :=
        { row with
          isRunning := false, lastResult := some result, itemsProcessed := items, errorMessage }
      .ok (true, { s with locks := s.locks.insert job released })

/-- Extends the lease of a job if the worker holds it. -/
def renewLease (s : Store) (job : String) (holder : WorkerId) (now : Timestamp)
    (lease : Duration) : Except StoreError (Bool × Store) := do
  let expiresAt ← leaseEnd now lease
  match s.locks.get? job with
  | none => return (false, s)
  | some row =>
    let renewed : JobLock := { row with expiresAt := some expiresAt }
    if row.isHeldBy holder then return (true, { s with locks := s.locks.insert job renewed })
    else return (false, s)

def checkpointsBetween (s : Store) (first last : Epoch) : List EpochCheckpoint :=
  (s.checkpoints.valuesBy Epoch.le).filter fun c => first.le c.epoch && c.epoch.le last

def markStep (s : Store) (epoch : Epoch) (step : EpochStep) (now : Timestamp) : Store :=
  let checkpoint := (s.checkpoints.get? epoch).getD { epoch }
  { s with checkpoints := s.checkpoints.insert epoch (checkpoint.mark step now) }

/-- Stores snapshots of delegates; of two for one delegate in one epoch the later one stays. -/
def putSnapshots (s : Store) (rows : List DelegateSnapshot) : Store :=
  { s with snapshots := rows.foldl (fun t r => t.insert (r.epoch, r.delegate) r) s.snapshots }

/-- The values of an epoch in the order of the delegates. -/
def ofEpoch {ν : Type} (t : Table (Epoch × DelegateId) ν) (epoch : Epoch) : List ν :=
  ((t.entries.filter fun e => e.1.1 = epoch).mergeSort
    fun a b => Identifier.le a.1.2 b.1.2).map Prod.snd

def snapshotsOf (s : Store) (epoch : Epoch) : List DelegateSnapshot := ofEpoch s.snapshots epoch

def putTotals (s : Store) (t : EpochTotals) : Store :=
  { s with totals := s.totals.insert t.epoch t }

def putSummaries (s : Store) (rows : List DelegatorSummary) : Store :=
  { s with summaries := rows.foldl (fun t r => t.insert (r.epoch, r.delegate) r) s.summaries }

def summariesOf (s : Store) (epoch : Epoch) : List DelegatorSummary := ofEpoch s.summaries epoch

/-- Stores the state of an address; a state without an amount keeps the amount stored before. -/
def putState (states : Table StakeAddress DelegationState) (next : DelegationState) :
    Table StakeAddress DelegationState :=
  let stored := (states.get? next.address).bind fun s => s.amount
  states.insert next.address { next with amount := next.amount.or stored }

def statesOf (s : Store) (addresses : List StakeAddress) : Table StakeAddress DelegationState :=
  addresses.foldl (fun found a => match s.states.get? a with
    | some state => found.insert a state
    | none => found) {}

theorem statesOf_get? (s : Store) (addresses : List StakeAddress) (a : StakeAddress) :
    (s.statesOf addresses).get? a = if a ∈ addresses then s.states.get? a else none := by
  have hfold (found : Table StakeAddress DelegationState) :
      (addresses.foldl (fun found a => match s.states.get? a with
        | some state => found.insert a state
        | none => found) found).get? a =
      if a ∈ addresses then (s.states.get? a).or (found.get? a) else found.get? a := by
    induction addresses generalizing found with
    | nil => simp
    | cons b bs ih =>
      rw [List.foldl_cons, ih]
      rcases hb : s.states.get? b with _ | x
      · by_cases ha : a = b
        · subst ha
          simp [hb]
        · simp [ha]
      · simp only [Table.get?_insert]
        by_cases ha : a = b
        · subst ha
          simp [hb]
        · simp [ha]
  exact (hfold {}).trans (by simp)

/-- Appends changes to the log and stores states, both or neither. -/
def applyChanges (s : Store) (changes : List DelegationChange) (states : List DelegationState) :
    Store :=
  { s with changes := s.changes ++ changes, states := states.foldl putState s.states }

/-- Commits the history of one address: its changes, its last state and the cursor behind it. -/
def applyBackfill (s : Store) (changes : List DelegationChange) (state : Option DelegationState)
    (cursor : BackfillCursor) : Store :=
  let committed := s.applyChanges changes state.toList
  { committed with cursors := committed.cursors.insert cursor.job cursor }

def changesOf (s : Store) (address : StakeAddress) : List DelegationChange :=
  s.changes.filter fun c => c.address = address

def clearCursor (s : Store) (job : String) : Store := { s with cursors := s.cursors.erase job }

def isBackfillDone (s : Store) (job : String) : Bool := s.finishedBackfills.contains job

def markBackfillDone (s : Store) (job : String) : Store :=
  { s with finishedBackfills := s.finishedBackfills.insert job }

def putProposal (s : Store) (p : ProposalSnapshot) : Store :=
  { s with proposals := s.proposals.insert p.proposalId p }

end Store

end GovernanceIndex
