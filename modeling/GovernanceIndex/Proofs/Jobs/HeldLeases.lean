import GovernanceIndex.Jobs.Lease
import GovernanceIndex.Ledger.Scripted
import GovernanceIndex.Proofs.Run.Contract
import GovernanceIndex.Proofs.Store.Leases
import Mathlib.Data.List.Nodup
import Mathlib.Logic.Function.Basic

/-!
Workers that share a store. Each knows which leases it was granted and has not given up since, and
asks the store for no other one. So a worker is granted a lease exactly when the row of the job
allows it and the worker has given up the last one that it was granted for the job, whether or not
that one is still live.
-/
namespace GovernanceIndex

variable {ι L : Type}

namespace World

/-- Whether the store grants the worker the lease of a job if it is asked now. -/
def grants (w : World L) (job : String) (lease : Duration) : Bool :=
  (w.takeFault .acquireLease).1.isNone &&
    (LeaseCall.acquire job w.worker.id w.now lease).granted w.store

theorem call_acquire_iff (w : World L) (job : String) (lease : Duration) :
    (w.call (.acquireLease job w.worker.id w.now lease)).1 = .ok true ↔ w.grants job lease := by
  have hstore := w.takeFault_store .acquireLease
  unfold call grants LeaseCall.granted LeaseCall.perform
  dsimp only [StoreCall.method]
  rcases hf : w.takeFault .acquireLease with ⟨_ | cause, v⟩ <;> rw [hf] at hstore
  · have hnote : (v.note (.acquireLease job w.worker.id w.now lease)).store = w.store :=
      (v.note_store _).trans hstore
    dsimp only [Store.perform]
    rw [hnote]
    rcases w.store.acquireLease job w.worker.id w.now lease with cause | ⟨r, s⟩ <;> simp
  · simp

theorem grants_iff (w : World L) (job : String) (lease : Duration) :
    w.grants job lease ↔ (w.takeFault .acquireLease).1 = none ∧ (w.now.add? lease).isSome ∧
      ∀ row ∈ w.store.locks.get? job, row.isRunning = false ∨ row.isExpired w.now := by
  have hrow : (∀ p ∈ w.store.shown job, p.2.any fun t => t.before w.now) ↔
      ∀ row ∈ w.store.locks.get? job, row.isRunning = false ∨ row.isExpired w.now := by
    unfold Store.shown
    rcases w.store.locks.get? job with _ | row
    · simp
    · rcases hrunning : row.isRunning with _ | _ <;>
        simp [Option.filter, JobLock.isExpired, hrunning]
  unfold grants
  rw [Bool.and_eq_true, Option.isNone_iff_eq_none, ← hrow]
  apply and_congr_right
  intro
  rcases LeaseCall.acquire_cases w.store job w.worker.id w.now lease with
    ⟨ends, row, hends, hpassed, hperform, -⟩ | ⟨hlive, hrefused, -⟩
  · rw [LeaseCall.granted_of_perform hperform, hends]
    exact iff_of_true rfl ⟨rfl, hpassed⟩
  · rw [hrefused]
    exact iff_of_false Bool.false_ne_true hlive

end World

namespace Run

def affirms (m : Run L Bool) (w : World L) : Bool := decide ((m w).1.toOption = some true)

theorem tryAcquire_held (job : String) (lease : Duration) (w : World L) :
    let granted := !w.worker.held.contains job && w.grants job lease
    (tryAcquire job lease).affirms w = granted ∧
      (tryAcquire job lease w).2.worker.held =
        if granted then w.worker.held.insert job else w.worker.held := by
  have hsame : (w.call (.acquireLease job w.worker.id w.now lease)).2.worker.held = w.worker.held :=
    congrArg Worker.held (w.call_frame _).2.2
  have hgrants := w.call_acquire_iff job lease
  unfold affirms tryAcquire
  rw [get_bind_apply]
  rcases hheld : w.worker.held.contains job with _ | _
  · rw [if_neg Bool.false_ne_true, bind_apply, call_eq]
    rcases hr : w.call (.acquireLease job w.worker.id w.now lease) with ⟨cause | _ | _, w'⟩ <;>
      rw [hr] at hsame hgrants <;> dsimp only at hsame hgrants ⊢
    · have hnot : w.grants job lease = false := by simpa using hgrants
      simp [hnot, hsame, Except.toOption]
    · have hnot : w.grants job lease = false := by simpa using hgrants
      rw [hnot]
      exact ⟨rfl, hsame⟩
    · have hyes : w.grants job lease = true := by simpa using hgrants
      rw [hyes, ← hsame]
      exact ⟨rfl, rfl⟩
  · rw [if_pos rfl]
    exact ⟨rfl, rfl⟩

theorem renew_held (job : String) (lease : Duration) (w : World L) :
    (renew job lease w).2.worker.held = w.worker.held := by
  unfold renew
  rw [get_bind_apply, call_world]
  exact congrArg Worker.held (w.call_frame _).2.2

theorem release_held (job : String) (result : JobResult) (items : Option UInt64)
    (errorMessage : Option String) (w : World L) :
    (release job result items errorMessage w).2.worker.held = w.worker.held.erase job := by
  let w₁ : World L := { w with worker := { w.worker with held := w.worker.held.erase job } }
  have hchange : (changeHeld fun held => held.erase job : Run L Unit) w = (.ok (), w₁) := rfl
  have hsame := congrArg Worker.held
    (w₁.call_frame (.releaseLease job w₁.worker.id result items errorMessage)).2.2
  unfold release
  rw [bind_apply_of_ok hchange, get_bind_apply, bind_apply, call_eq]
  rcases hr : w₁.call (.releaseLease job w₁.worker.id result items errorMessage) with
    ⟨cause | _, w'⟩ <;> rw [hr] at hsame <;> exact hsame

end Run

inductive LeaseAction where
  | acquire (lease : Duration)
  | renew (lease : Duration)
  | release (result : JobResult) (items : Option UInt64) (errorMessage : Option String)

/-- A lease that was given up is answered with yes. -/
def LeaseAction.run (job : String) : LeaseAction → Run L Bool
  | .acquire lease => Run.tryAcquire job lease
  | .renew lease => Run.renew job lease
  | .release result items errorMessage => do
    Run.release job result items errorMessage
    return true

/-- Workers that share a store, with the names of the jobs whose leases each knows to hold. -/
structure Fleet (ι : Type) where
  store : Store := {}
  held : ι → List String := fun _ => []

/-- What a worker does about a lease, and the world apart from the store and the worker. -/
structure FleetEvent (ι L : Type) where
  worker : ι
  job : String
  action : LeaseAction
  world : World L

namespace Fleet

variable {id : ι → WorkerId} {f : Fleet ι} {i : ι} {job : String} {e : FleetEvent ι L}

/-- A world as a worker of the fleet meets it. -/
def worldOf (id : ι → WorkerId) (f : Fleet ι) (i : ι) (w : World L) : World L :=
  { w with store := f.store, worker := ⟨id i, f.held i⟩ }

def affirms (id : ι → WorkerId) (f : Fleet ι) (e : FleetEvent ι L) : Bool :=
  (e.action.run e.job).affirms (f.worldOf id e.worker e.world)

variable [DecidableEq ι]

def step (id : ι → WorkerId) (f : Fleet ι) (e : FleetEvent ι L) : Fleet ι :=
  let w := (e.action.run e.job (f.worldOf id e.worker e.world)).2
  ⟨w.store, Function.update f.held e.worker w.worker.held⟩

def runAll (id : ι → WorkerId) (es : List (FleetEvent ι L)) : Fleet ι := es.foldl (step id) {}

def answered (id : ι → WorkerId) : Fleet ι → List (FleetEvent ι L) → List (FleetEvent ι L × Bool)
  | _, [] => []
  | f, e :: es => (e, f.affirms id e) :: answered id (f.step id e) es

def keepsStep (i : ι) (job : String) (kept : Bool) (e : FleetEvent ι L × Bool) : Bool :=
  if e.1.worker = i ∧ e.1.job = job then
    match e.1.action with
    | .acquire _ => kept || e.2
    | .renew _ => kept
    | .release .. => false
  else kept

/-- Whether a worker was granted the lease of a job and did not give it up since. -/
def keeps (i : ι) (job : String) (es : List (FleetEvent ι L × Bool)) : Bool :=
  es.foldl (keepsStep i job) false

theorem held_step (e : FleetEvent ι L) :
    (f.step id e).held e.worker =
      match e.action with
      | .acquire _ =>
        if f.affirms id e then (f.held e.worker).insert e.job else f.held e.worker
      | .renew _ => f.held e.worker
      | .release .. => (f.held e.worker).erase e.job := by
  obtain ⟨x, job, action, w⟩ := e
  unfold step affirms
  dsimp only
  rw [Function.update_self]
  cases action with
  | acquire lease =>
    obtain ⟨haffirms, hheld⟩ := Run.tryAcquire_held job lease (f.worldOf id x w)
    rw [← haffirms] at hheld
    exact hheld
  | renew lease => exact Run.renew_held job lease (f.worldOf id x w)
  | release result items errorMessage =>
    have hheld := Run.release_held job result items errorMessage (f.worldOf id x w)
    dsimp only [LeaseAction.run]
    rw [Run.bind_apply]
    rcases hr : Run.release job result items errorMessage (f.worldOf id x w) with ⟨halt | _, w'⟩ <;>
      rw [hr] at hheld <;> exact hheld

/-- Every worker knows to hold what `kept` says. -/
structure Informed (kept : ι → String → Bool) (f : Fleet ι) : Prop where
  nodup : ∀ i, (f.held i).Nodup
  mem_held : ∀ i job, job ∈ f.held i ↔ kept i job

theorem Informed.step {kept : ι → String → Bool} (h : Informed kept f) (e : FleetEvent ι L) :
    Informed (fun i job => keepsStep i job (kept i job) (e, f.affirms id e)) (f.step id e) := by
  have hother {i : ι} (hi : i ≠ e.worker) : (f.step id e).held i = f.held i :=
    Function.update_of_ne hi _ _
  have hself : (f.step id e).held e.worker = _ := held_step e
  constructor
  · intro i
    by_cases hi : i = e.worker
    · subst hi
      rw [hself]
      split
      · split
        · exact List.Nodup.insert (h.nodup e.worker)
        · exact h.nodup e.worker
      · exact h.nodup e.worker
      · exact (h.nodup e.worker).erase _
    · rw [hother hi]
      exact h.nodup i
  · intro i job
    unfold keepsStep
    by_cases hi : i = e.worker
    · subst hi
      rw [hself]
      by_cases hjob : e.job = job
      · subst hjob
        have hmem := h.mem_held e.worker e.job
        rcases e.action with lease | lease | _
        · rcases haffirms : f.affirms id e with _ | _ <;> simp [hmem]
        · simp [hmem]
        · simp [(h.nodup e.worker).mem_erase_iff]
      · have hmem := h.mem_held e.worker job
        rcases e.action with lease | lease | _
        · rcases haffirms : f.affirms id e with _ | _ <;> simp [hmem, hjob, Ne.symm hjob]
        · simp [hmem, hjob]
        · simp [(h.nodup e.worker).mem_erase_iff, hmem, hjob, Ne.symm hjob]
    · rw [hother hi, h.mem_held i job]
      simp [Ne.symm hi]

/-- Every worker knows to hold what it was granted and did not give up since. -/
theorem runAll_informed (id : ι → WorkerId) (es : List (FleetEvent ι L)) :
    Informed (fun i job => keeps i job (answered id {} es)) (runAll id es) := by
  have hfold (kept : ι → String → Bool) (f : Fleet ι) (h : Informed kept f) :
      Informed (fun i job => (answered id f es).foldl (keepsStep i job) (kept i job))
        (es.foldl (step id) f) := by
    induction es generalizing kept f with
    | nil => exact h
    | cons e es ih => exact ih _ _ (h.step e)
  exact hfold (fun _ _ => false) {} ⟨fun _ => List.nodup_nil, fun _ _ => by simp⟩

/-- A worker that asks for the lease of a job is granted it just if it gave up the last one that it
was granted for the job, the call meets no fault, the end is representable, and the job has no row,
is not running, or runs with a lease that ended before now. -/
theorem acquire_affirmed_iff (id : ι → WorkerId) (es : List (FleetEvent ι L)) (i : ι)
    (job : String) (lease : Duration) (w : World L) :
    let f := runAll id es
    let v := f.worldOf id i w
    (Run.tryAcquire job lease).affirms v ↔
      keeps i job (answered id {} es) = false ∧ (v.takeFault .acquireLease).1 = none ∧
        (w.now.add? lease).isSome ∧
        ∀ row ∈ f.store.locks.get? job, row.isRunning = false ∨ row.isExpired w.now := by
  intro f v
  have hmem : job ∈ v.worker.held ↔ keeps i job (answered id {} es) :=
    (runAll_informed id es).mem_held i job
  obtain ⟨haffirms, -⟩ := Run.tryAcquire_held job lease v
  rw [haffirms, Bool.and_eq_true, v.grants_iff, Bool.not_eq_true', ← Bool.not_eq_true,
    List.contains_iff_mem, hmem, Bool.not_eq_true]
  exact Iff.rfl

/-- The first of two workers asks for the lease of a job for a minute. -/
def minuteAsked : FleetEvent Bool ScriptedLedger where
  worker := false
  job := "sync"
  action := .acquire (.ofSecs 60)
  world := { ledger := ⟨[]⟩, worker := { id := ⟨"a", by decide⟩ }, now := ⟨0, 0⟩ }

/-- When the minute is over, the second worker would be granted the lease and the first is not. -/
theorem acquire_refused_lapsed :
    let id : Bool → WorkerId := fun i => if i then ⟨"b", by decide⟩ else ⟨"a", by decide⟩
    let f := runAll id [minuteAsked]
    let w : World ScriptedLedger := { minuteAsked.world with now := ⟨61, 0⟩ }
    (∀ row ∈ f.store.locks.get? "sync", row.isExpired w.now) ∧
      (Run.tryAcquire "sync" (.ofSecs 60)).affirms (f.worldOf id true w) ∧
      (Run.tryAcquire "sync" (.ofSecs 60)).affirms (f.worldOf id false w) = false := by
  decide +kernel

end Fleet

end GovernanceIndex
