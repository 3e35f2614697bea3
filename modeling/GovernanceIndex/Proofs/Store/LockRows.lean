import GovernanceIndex.Proofs.Store.Leases
import GovernanceIndex.Proofs.Table

/-!
The rows of the lock table along any calls to the lease operations. A lease is taken in stages: its
end is worked out, the row of the job is made if there is none, a lease that ran out is reclaimed,
and only then the row is looked at. What a stage writes stays when a later one says no, so that a
call which is refused or fails changes nothing is shown for the stages, carried out in place.
-/
namespace GovernanceIndex

namespace JobLock

def reclaimed (row : JobLock) : JobLock :=
  { row with isRunning := false, lastResult := some .expired }

def taken (row : JobLock) (holder : WorkerId) (now ends : Timestamp) : JobLock :=
  { row with
    isRunning := true, startedAt := some now, expiresAt := some ends, lockedBy := some holder }

end JobLock

namespace Store

variable {s : Store} {job : String}

theorem putLock_get? (s : Store) (job : String) (row : JobLock) (j : String) :
    (s.putLock job row).locks.get? j = if j = job then some row else s.locks.get? j :=
  Table.get?_insert s.locks job j row

theorem putLock_putLock (s : Store) (job : String) (row row' : JobLock) :
    (s.putLock job row).putLock job row' = s.putLock job row' :=
  congrArg (fun locks => { s with locks }) (Table.insert_insert s.locks job row row')

/-- The row of a job, which is a fresh one if the job has none. -/
def row (s : Store) (job : String) : JobLock := (s.locks.get? job).getD { job }

def withRow (s : Store) (job : String) : Store :=
  if (s.locks.get? job).isSome then s else s.putLock job { job }

theorem withRow_get? (s : Store) (job : String) :
    (s.withRow job).locks.get? job = some (s.row job) := by
  unfold withRow row
  rcases h : s.locks.get? job with _ | row
  · exact (putLock_get? s job { job } job).trans (if_pos rfl)
  · exact h

theorem withRow_putLock (s : Store) (job : String) (row : JobLock) :
    (s.withRow job).putLock job row = s.putLock job row := by
  unfold withRow
  split
  · rfl
  · exact putLock_putLock s job { job } row

theorem withRow_of_running (h : (s.row job).isRunning) : s.withRow job = s := by
  unfold withRow
  unfold row at h
  rcases hrow : s.locks.get? job with _ | row
  · rw [hrow] at h
    cases h
  · rfl

/-- What the taking of a lease comes to if the lease has an end. -/
theorem acquireLease_of_ends {now ends : Timestamp} {lease : Duration}
    (h : now.add? lease = some ends) (s : Store) (job : String) (holder : WorkerId) :
    s.acquireLease job holder now lease = .ok (
      if (s.row job).isExpired now then
        (true, s.putLock job ((s.row job).reclaimed.taken holder now ends))
      else if (s.row job).isRunning then (false, s)
      else (true, s.putLock job ((s.row job).taken holder now ends))) := by
  unfold acquireLease leaseEnd
  rw [h]
  let row := if (s.row job).isExpired now then (s.row job).reclaimed else s.row job
  change (if row.isRunning then Except.ok (false, s)
    else Except.ok (true, s.putLock job (row.taken holder now ends))) = _
  unfold row
  by_cases hexpired : (s.row job).isExpired now
  · rw [if_pos hexpired, if_pos hexpired]
    rfl
  · rw [if_neg hexpired, if_neg hexpired]
    split <;> rfl

end Store

/-- Work on the tables in place: what was written before a failure stays. -/
abbrev InPlace := ExceptT StoreError (StateM Store)

namespace InPlace

variable {α β : Type}

theorem bind_apply_of_ok {m : InPlace α} {a : α} {s s' : Store} (h : m s = (.ok a, s'))
    (f : α → InPlace β) : (m >>= f) s = f a s' := by
  change (ExceptT.bindCont f (m s).1 : StateM Store _) (m s).2 = _
  rw [h]
  rfl

def makeRow (job : String) : InPlace Unit :=
  modify fun s => s.withRow job

def writeRow (job : String) (f : JobLock → JobLock) : InPlace Unit :=
  modify fun s => ((s.locks.get? job).map fun row => s.putLock job (f row)).getD s

/-- Whether a job has a row, and a row of some kind. -/
def rowIs (job : String) (p : JobLock → Bool) : InPlace Bool := do
  return ((← get).locks.get? job).any p

/-- Takes the lease of a job: works out its end, makes the row, reclaims a lease that ran out, and
looks whether the job is running still. -/
def acquire (job : String) (holder : WorkerId) (now : Timestamp) (lease : Duration) :
    InPlace Bool := do
  let ends ← Store.leaseEnd now lease
  makeRow job
  if ← rowIs job fun row => row.isExpired now then
    writeRow job JobLock.reclaimed
  if ← rowIs job JobLock.isRunning then return false
  writeRow job fun row => row.taken holder now ends
  return true

/-- Extends the lease of a job in its row, if the worker holds it. -/
def renew (job : String) (holder : WorkerId) (now : Timestamp) (lease : Duration) :
    InPlace Bool := do
  let ends ← Store.leaseEnd now lease
  if ← rowIs job fun row => row.isHeldBy holder then
    writeRow job fun row => { row with expiresAt := some ends }
    return true
  else return false

/-- Gives the lease of a job up in its row, which there must be, unless another worker holds it. -/
def release (job : String) (holder : WorkerId) (result : JobResult) (items : Option UInt64)
    (errorMessage : Option String) : InPlace Bool := do
  if !(← rowIs job fun _ => true) then throw (.notFound ("job lock " ++ job))
  if ← rowIs job fun row => row.isRunning && !row.isHeldBy holder then return false
  writeRow job fun row =>
    { row with
      isRunning := false, lastResult := some result, itemsProcessed := items, errorMessage }
  return true

variable {s : Store} {job : String} {row : JobLock}

theorem makeRow_apply (s : Store) (job : String) : makeRow job s = (.ok (), s.withRow job) := rfl

theorem rowIs_apply (s : Store) (job : String) (p : JobLock → Bool) :
    rowIs job p s = (.ok ((s.locks.get? job).any p), s) := rfl

theorem writeRow_apply (h : s.locks.get? job = some row) (f : JobLock → JobLock) :
    writeRow job f s = (.ok (), s.putLock job (f row)) := by
  change (Except.ok (), ((s.locks.get? job).map fun row => s.putLock job (f row)).getD s) = _
  rw [h]
  rfl

theorem leaseEnd_apply {now ends : Timestamp} {lease : Duration} (h : now.add? lease = some ends)
    (s : Store) : (liftM (Store.leaseEnd now lease) : InPlace Timestamp) s = (.ok ends, s) := by
  unfold Store.leaseEnd
  rw [h]
  rfl

/-- What an operation comes to that leaves the store alone if it fails. -/
def settled (s : Store) : Except StoreError (Bool × Store) → Except StoreError Bool × Store
  | .ok (answer, s') => (.ok answer, s')
  | .error cause => (.error cause, s)

theorem acquire_apply (s : Store) (job : String) (holder : WorkerId) (now : Timestamp)
    (lease : Duration) :
    acquire job holder now lease s = settled s (s.acquireLease job holder now lease) := by
  unfold acquire
  rcases hends : now.add? lease with _ | ends
  · unfold Store.acquireLease Store.leaseEnd
    rw [hends]
    rfl
  · have hrow := s.withRow_get? job
    rw [bind_apply_of_ok (leaseEnd_apply hends s), bind_apply_of_ok (makeRow_apply s job),
      bind_apply_of_ok (rowIs_apply _ job _), Store.acquireLease_of_ends hends, hrow,
      Option.any_some]
    by_cases hexpired : (s.row job).isExpired now
    · have hreclaimed := s.putLock_get? job (s.row job).reclaimed job
      rw [if_pos rfl] at hreclaimed
      simp only [if_pos hexpired]
      rw [bind_apply_of_ok (writeRow_apply hrow _), s.withRow_putLock,
        bind_apply_of_ok (rowIs_apply _ job _), hreclaimed]
      refine (bind_apply_of_ok (writeRow_apply hreclaimed _) _).trans ?_
      rw [s.putLock_putLock]
      rfl
    · simp only [if_neg hexpired]
      rw [bind_apply_of_ok (rowIs_apply _ job _), hrow, Option.any_some]
      by_cases hrunning : (s.row job).isRunning
      · simp only [if_pos hrunning, Store.withRow_of_running hrunning]
        rfl
      · simp only [if_neg hrunning]
        rw [bind_apply_of_ok (writeRow_apply hrow _), s.withRow_putLock]
        rfl

theorem renew_apply (s : Store) (job : String) (holder : WorkerId) (now : Timestamp)
    (lease : Duration) :
    renew job holder now lease s = settled s (s.renewLease job holder now lease) := by
  unfold renew Store.renewLease
  rcases hends : now.add? lease with _ | ends
  · unfold Store.leaseEnd
    rw [hends]
    rfl
  · rw [bind_apply_of_ok (leaseEnd_apply hends s), bind_apply_of_ok (rowIs_apply s job _)]
    simp only [Store.leaseEnd, hends, bind, Except.bind]
    rcases hrow : s.locks.get? job with _ | row
    · rfl
    · by_cases hheld : row.isHeldBy holder
      · simp only [Option.any_some, if_pos hheld]
        exact bind_apply_of_ok (writeRow_apply hrow _) _
      · simp only [Option.any_some, if_neg hheld]
        rfl

theorem release_apply (s : Store) (job : String) (holder : WorkerId) (result : JobResult)
    (items : Option UInt64) (errorMessage : Option String) :
    release job holder result items errorMessage s =
      settled s (s.releaseLease job holder result items errorMessage) := by
  unfold release Store.releaseLease
  rw [bind_apply_of_ok (rowIs_apply s job _)]
  rcases hrow : s.locks.get? job with _ | row
  · rfl
  · simp only [Option.any_some, Bool.not_true, Bool.false_eq_true, ↓reduceIte]
    rw [bind_apply_of_ok (rowIs_apply s job _), hrow, Option.any_some]
    by_cases hother : row.isRunning && !row.isHeldBy holder
    · simp only [if_pos hother]
      rfl
    · simp only [if_neg hother]
      exact bind_apply_of_ok (writeRow_apply hrow _) _

end InPlace

namespace LeaseCall

/-- A call, stage by stage. -/
def inPlace : LeaseCall → InPlace Bool
  | .acquire job holder now lease => .acquire job holder now lease
  | .renew job holder now lease => .renew job holder now lease
  | .release job holder result items errorMessage => .release job holder result items errorMessage

def answer (c : LeaseCall) (s : Store) : Except StoreError Bool := (c.perform s).map Prod.fst

/-- A call that is carried out in place answers and leaves what it does as a whole. -/
theorem inPlace_apply (c : LeaseCall) (s : Store) : c.inPlace s = (c.answer s, c.run s) := by
  have hsettled : c.inPlace s = InPlace.settled s (c.perform s) := by
    cases c with
    | acquire job holder now lease => exact InPlace.acquire_apply s job holder now lease
    | renew job holder now lease => exact InPlace.renew_apply s job holder now lease
    | release job holder result items errorMessage =>
      exact InPlace.release_apply s job holder result items errorMessage
  rw [hsettled]
  unfold answer run
  rcases c.perform s with cause | ⟨answer, s'⟩ <;> rfl

end LeaseCall

/-- A row that shows a running job tells since when, until when and by whom it runs. -/
def JobLock.Told (row : JobLock) : Prop :=
  row.isRunning → row.startedAt.isSome ∧ row.expiresAt.isSome ∧ row.lockedBy.isSome

/-- Every job has at most one row, which is its own, and the rows of running jobs are told. -/
structure Store.RowsSound (s : Store) : Prop where
  own : s.locks.KeyedBy JobLock.job
  told : ∀ job row, s.locks.get? job = some row → row.Told

namespace LeaseCall

variable {s s' : Store} {c : LeaseCall}

theorem perform_yes (h : c.perform s = .ok (true, s')) :
    ∃ row, s' = s.putLock c.job row ∧ row.job = (s.row c.job).job ∧
      ((s.row c.job).Told → row.Told) ∧ (c.asks ∨ (s.locks.get? c.job).isSome) := by
  cases c with
  | acquire job holder now lease =>
    replace h : s.acquireLease job holder now lease = .ok (true, s') := h
    rcases hends : now.add? lease with _ | ends
    · unfold Store.acquireLease Store.leaseEnd at h
      rw [hends] at h
      cases h
    · rw [Store.acquireLease_of_ends hends] at h
      split at h
      · cases h
        exact ⟨_, rfl, rfl, fun _ _ => ⟨rfl, rfl, rfl⟩, .inl rfl⟩
      · split at h <;> cases h
        exact ⟨_, rfl, rfl, fun _ _ => ⟨rfl, rfl, rfl⟩, .inl rfl⟩
  | renew job holder now lease =>
    replace h : s.renewLease job holder now lease = .ok (true, s') := h
    unfold Store.renewLease Store.leaseEnd at h
    rcases hends : now.add? lease with _ | ends <;> rw [hends] at h
    · cases h
    · rcases hrow : s.locks.get? job with _ | row <;> simp only [hrow, bind, Except.bind] at h
      · cases h
      · have hown : s.row job = row := congrArg (Option.getD · _) hrow
        split at h <;> cases h
        rw [LeaseCall.job, hown, hrow]
        exact ⟨_, rfl, rfl, fun htold hrunning =>
          ⟨(htold hrunning).1, rfl, (htold hrunning).2.2⟩, .inr rfl⟩
  | release job holder result items errorMessage =>
    replace h : s.releaseLease job holder result items errorMessage = .ok (true, s') := h
    unfold Store.releaseLease at h
    rcases hrow : s.locks.get? job with _ | row <;> simp only [hrow] at h
    · cases h
    · have hown : s.row job = row := congrArg (Option.getD · _) hrow
      split at h <;> cases h
      rw [LeaseCall.job, hown, hrow]
      exact ⟨_, rfl, rfl, fun _ hrunning => (Bool.false_ne_true hrunning).elim, .inr rfl⟩

theorem perform_of_granted (h : c.granted s) : c.perform s = .ok (true, c.run s) := by
  unfold granted at h
  unfold run
  rcases hp : c.perform s with cause | ⟨answer, s'⟩ <;> rw [hp] at h
  · cases h
  · cases h
    rfl

theorem answer_eq_ok_true : c.answer s = .ok true ↔ c.granted s := by
  unfold answer granted
  rcases c.perform s with cause | ⟨answer, s'⟩
  · exact ⟨nofun, nofun⟩
  · exact ⟨Except.ok.inj, congrArg Except.ok⟩

theorem run_of_refused (h : c.granted s = false) : c.run s = s := by
  -- Of the two things that a call can do, the one with a new row is granted.
  have hyes {row : JobLock} (hp : c.perform s = .ok (true, s.putLock c.job row)) : c.run s = s := by
    rw [granted_of_perform hp] at h
    cases h
  cases c with
  | acquire job holder now lease =>
    obtain ⟨_, _, -, -, hp, -⟩ | ⟨-, -, hrun⟩ := acquire_cases s job holder now lease
    · exact hyes hp
    · exact hrun
  | renew job holder now lease =>
    obtain ⟨_, _, -, -, hp, -⟩ | ⟨-, -, hrun⟩ := renew_cases s job holder now lease
    · exact hyes hp
    · exact hrun
  | release job holder result items errorMessage =>
    obtain ⟨_, -, -, hp⟩ | ⟨-, -, hrun⟩ := release_cases s job holder result items errorMessage
    · exact hyes hp
    · exact hrun

theorem run_rows (s : Store) (c : LeaseCall) :
    (c.granted s = false ∧ c.run s = s) ∨
      c.granted s ∧ ∃ row, c.run s = s.putLock c.job row ∧ row.job = (s.row c.job).job ∧
        ((s.row c.job).Told → row.Told) ∧ (c.asks ∨ (s.locks.get? c.job).isSome) := by
  rcases hgranted : c.granted s with _ | _
  · exact .inl ⟨rfl, run_of_refused hgranted⟩
  · exact .inr ⟨rfl, perform_yes (perform_of_granted hgranted)⟩

end LeaseCall

namespace Store.RowsSound

variable {s : Store}

theorem empty : ({} : Store).RowsSound where
  own := ⟨List.nodup_nil, fun _ _ h => nomatch h⟩
  told _ _ h := nomatch h

theorem row_sound (h : s.RowsSound) (job : String) :
    (s.row job).job = job ∧ (s.row job).Told := by
  unfold row
  rcases hrow : s.locks.get? job with _ | row
  · exact ⟨rfl, fun hrunning => nomatch hrunning⟩
  · exact ⟨(h.own.own job row hrow).symm, h.told job row hrow⟩

theorem putLock (h : s.RowsSound) {job : String} {row : JobLock} (hjob : row.job = job)
    (htold : row.Told) : (s.putLock job row).RowsSound := by
  refine ⟨⟨Table.keys_insert_nodup h.own.distinct job row, fun j r hr => ?_⟩, fun j r hr => ?_⟩ <;>
    rw [putLock_get?] at hr <;> split at hr
  · next hj =>
    cases hr
    exact hj.trans hjob.symm
  · exact h.own.own j r hr
  · cases hr
    exact htold
  · exact h.told j r hr

theorem run (h : s.RowsSound) (c : LeaseCall) : (c.run s).RowsSound := by
  obtain ⟨-, hrun⟩ | ⟨-, row, hrun, hjob, htold, -⟩ := LeaseCall.run_rows s c <;> rw [hrun]
  · exact h
  · obtain ⟨hown, hbefore⟩ := h.row_sound c.job
    exact h.putLock (hjob.trans hown) (htold hbefore)

theorem runAll (h : s.RowsSound) (cs : List LeaseCall) : (LeaseCall.runAll cs s).RowsSound := by
  induction cs generalizing s with
  | nil => exact h
  | cons c cs ih => exact ih (h.run c)

end Store.RowsSound

namespace LeaseCall

/-- A job has a row behind a call if it had one, or if its lease was taken by the call. -/
theorem run_isSome (s : Store) (c : LeaseCall) (job : String) :
    ((c.run s).locks.get? job).isSome ↔
      (s.locks.get? job).isSome ∨ c.asks ∧ c.job = job ∧ c.granted s := by
  obtain ⟨hno, hrun⟩ | ⟨hyes, row, hrun, -, -, hrow⟩ := run_rows s c <;> rw [hrun]
  · simp [hno]
  · rw [Store.putLock_get?]
    by_cases hjob : job = c.job
    · subst hjob
      simpa [hyes, or_comm] using hrow
    · simp [hjob, Ne.symm hjob]

theorem runAll_isSome (cs : List LeaseCall) (s : Store) (job : String) :
    ((runAll cs s).locks.get? job).isSome ↔ (s.locks.get? job).isSome ∨
      ∃ e ∈ answered s cs, e.1.asks ∧ e.1.job = job ∧ e.2 := by
  induction cs generalizing s with
  | nil => simp [runAll, answered]
  | cons c cs ih =>
    refine (ih (c.run s)).trans ?_
    rw [run_isSome, answered, or_assoc]
    simp

/-- Behind any calls every job has at most one row, which is its own, the rows of running jobs tell
since when, until when and by whom they run, and a job has a row exactly if its lease was taken at
some time. Any further call, carried out in its stages, leaves all as it is if it says no or fails,
and changes the row of its own job only if it says yes; no row goes away. -/
theorem runAll_rows (cs : List LeaseCall) :
    let s := runAll cs {}
    s.locks.KeyedBy JobLock.job ∧
    (∀ job row, s.locks.get? job = some row → row.isRunning →
      row.startedAt.isSome ∧ row.expiresAt.isSome ∧ row.lockedBy.isSome) ∧
    (∀ job, (s.locks.get? job).isSome ↔
      ∃ e ∈ answered {} cs, e.1.asks ∧ e.1.job = job ∧ e.2) ∧
    ∀ c : LeaseCall, c.inPlace s = (c.answer s, c.run s) ∧
      (c.answer s ≠ .ok true → c.run s = s) ∧
      (c.answer s = .ok true → ∃ row, c.run s = s.putLock c.job row) ∧
      ∀ job, (s.locks.get? job).isSome → ((c.run s).locks.get? job).isSome := by
  intro s
  have hsound : s.RowsSound := Store.RowsSound.empty.runAll cs
  refine ⟨hsound.own, hsound.told, fun job => ?_, fun c => ⟨inPlace_apply c s, ?_, ?_, ?_⟩⟩
  · simpa using runAll_isSome cs {} job
  · rw [ne_eq, answer_eq_ok_true, Bool.not_eq_true]
    exact run_of_refused
  · rw [answer_eq_ok_true]
    intro hgranted
    obtain ⟨row, hrun, -⟩ := perform_yes (perform_of_granted hgranted)
    exact ⟨row, hrun⟩
  · intro job hrow
    exact (run_isSome s c job).mpr (.inl hrow)

end LeaseCall

end GovernanceIndex
