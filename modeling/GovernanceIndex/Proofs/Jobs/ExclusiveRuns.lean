import GovernanceIndex.Proofs.Jobs.LateRelease
import GovernanceIndex.Proofs.Sync.Frames

/-!
Exclusive runs. A run is refused without a trace, or it does its work in a world in which the lease
is taken and renewed, and gives the lease up behind it with a record of how the work ended. The
record stays while nobody but the worker itself touches the lease.
-/
namespace GovernanceIndex

variable {L α : Type}

structure JobOutcome where
  result : JobResult
  items : Option UInt64
  errorMessage : Option String
  deriving DecidableEq, Repr

/-- What is recorded of work that came to a report, failed or crashed. -/
def JobOutcome.of [JobReport α] : Except Halt α → Option JobOutcome
  | .ok report => some ⟨.success, some (UInt64.ofNat (JobReport.items report)), none⟩
  | .error (.failed cause) => some ⟨.failed, none, some cause.message⟩
  | .error (.crashed text) => some ⟨.failed, none, some ("panic: " ++ Halt.crashText text)⟩
  | .error .timeUp => none

theorem JobOutcome.of_eq_none [JobReport α] {r : Except Halt α} (h : of r = none) :
    r = .error .timeUp := by
  rcases r with (_ | _ | _) | _ <;> first | rfl | cases h

theorem JobOutcome.ne_timeUp [JobReport α] {r : Except Halt α} {o : JobOutcome}
    (h : of r = some o) : r ≠ .error .timeUp := by
  rintro rfl
  cases h

/-- The row of a job says that it is not running and how its last run ended. -/
def Store.Records (s : Store) (job : String) (o : JobOutcome) : Prop :=
  ∃ row ∈ s.locks.get? job, row.isRunning = false ∧ row.lastResult = some o.result ∧
    row.itemsProcessed = o.items ∧ row.errorMessage = o.errorMessage

namespace World

/-- The world in which the lease of a job is renewed from now on. -/
def tending (w : World L) (job : String) (lease : Duration) : World L :=
  { w with heartbeats := w.heartbeats ++ [{ job, lease, start := w.clock }] }

/-- The world in which the lease that was renewed last is renewed no more. -/
def rested (w : World L) : World L := { w with heartbeats := w.heartbeats.dropLast }

def holding (w : World L) (held : List String) : World L :=
  { w with worker := { w.worker with held } }

end World

namespace Run

theorem tryAcquire_cases (job : String) (lease : Duration) (w : World L) :
    let v := (w.call (.acquireLease job w.worker.id w.now lease)).2
    (tryAcquire job lease w = (.ok true, v.holding (job :: w.worker.held)) ∧
        job ∉ w.worker.held ∧ ∃ row, v.store = w.store.putLock job row ∧ row.isRunning = true ∧
          row.lockedBy = some w.worker.id) ∨
      ∃ r v', tryAcquire job lease w = (r, v') ∧ (v' = w ∨ v' = v) ∧ v'.store = w.store ∧
        (r = .ok false ∨ ∃ cause, r = .error (.failed cause)) := by
  intro v
  have hworker : v.worker = w.worker := (w.call_frame _).2.2
  unfold tryAcquire
  rw [get_bind_apply]
  split
  · exact .inr ⟨_, w, rfl, .inl rfl, rfl, .inl rfl⟩
  · next hheld =>
    rw [bind_apply, call_eq]
    rcases w.call_cases (.acquireLease job w.worker.id w.now lease) with
      ⟨r, v', hr, hp⟩ | ⟨cause, v', hr, hs⟩ <;> rw [hr]
    · obtain rfl : v = v' := congrArg Prod.snd hr
      change LeaseCall.perform w.store (.acquire job w.worker.id w.now lease) = _ at hp
      obtain ⟨-, row, -, -, hperform, hrunning, hholder, -⟩ | ⟨-, hrefused, hsame⟩ :=
        LeaseCall.acquire_cases w.store job w.worker.id w.now lease
      · obtain ⟨rfl, hstore⟩ := LeaseCall.perform_unique hp hperform
        left
        have hmem : job ∉ w.worker.held := by simpa using hheld
        refine ⟨?_, hmem, row, hstore, hrunning, hholder⟩
        have hinsert : v.worker.held.insert job = job :: w.worker.held := by
          rw [hworker]
          exact List.insert_of_not_mem hmem
        rw [← hinsert]
        rfl
      · obtain rfl : r = false := (LeaseCall.granted_of_perform hp).symm.trans hrefused
        exact .inr ⟨_, v, rfl, .inr rfl, (LeaseCall.run_of_perform hp).symm.trans hsame, .inl rfl⟩
    · obtain rfl : v = v' := congrArg Prod.snd hr
      exact .inr ⟨_, v, rfl, .inr rfl, hs, .inr ⟨_, rfl⟩⟩

theorem release_apply (job : String) (result : JobResult) (items : Option UInt64)
    (errorMessage : Option String) (w : World L) :
    let v := w.holding (w.worker.held.erase job)
    release job result items errorMessage w =
      match v.call (.releaseLease job w.worker.id result items errorMessage) with
      | (.ok _, v') => (.ok (), v')
      | (.error cause, v') => (.error (.failed (.store cause)), v') := by
  intro v
  have hchange : (changeHeld fun held => held.erase job : Run L Unit) w = (.ok (), v) := rfl
  unfold release
  rw [bind_apply_of_ok hchange, get_bind_apply, bind_apply, call_eq]
  have hid : v.worker.id = w.worker.id := rfl
  rw [hid]
  rcases v.call (.releaseLease job w.worker.id result items errorMessage) with ⟨_ | _, v'⟩ <;> rfl

theorem releaseFailed_apply (job errorMessage : String) (w : World L) :
    releaseFailed job errorMessage w =
      (.ok (), (release job .failed none (some errorMessage) w).2) := by
  unfold releaseFailed
  rw [bind_apply, attempt_apply, release_apply]
  rcases (w.holding _).call _ with ⟨_ | _, v'⟩ <;> rfl

variable [JobReport α] {job : String} {lease : Duration} {work : Run L α} {w v v₁ : World L}
  {r : Except Halt α} {o : JobOutcome}

theorem exclusive_of_refused {r : Except Halt Bool} (h : tryAcquire job lease w = (r, v))
    (hr : r ≠ .ok true) :
    exclusive job lease work w = (r.map fun _ => .alreadyRunning, v) := by
  unfold exclusive
  rw [bind_apply, h]
  rcases r with halt | _ | _
  · rfl
  · rfl
  · exact absurd rfl hr

/-- Behind its work an exclusive run gives its lease up with a record of how the work ended. It
comes to what the work came to, unless it cannot record a success. -/
theorem exclusive_of_acquired (h : tryAcquire job lease w = (.ok true, v))
    (hwork : work (v.tending job lease) = (r, v₁)) (ho : JobOutcome.of r = some o) :
    let released := release job o.result o.items o.errorMessage v₁.rested
    exclusive job lease work w =
      (r.bind fun report => released.1.map fun _ => .completed report, released.2) := by
  have hrenewing : whileRenewing job lease work v = (.ok r, v₁.rested) := by
    have hdef : whileRenewing job lease work v =
        (.ok (work (v.tending job lease)).1, (work (v.tending job lease)).2.rested) := rfl
    rw [hdef, hwork]
  unfold exclusive
  rw [bind_apply_of_ok h, if_pos rfl, bind_apply_of_ok hrenewing]
  rcases r with (cause | text | _) | report <;> cases ho
  · exact bind_apply_of_ok (releaseFailed_apply job cause.message v₁.rested) _
  · exact bind_apply_of_ok (releaseFailed_apply job _ v₁.rested) _
  · dsimp only
    rw [bind_apply]
    rcases release job .success (some (UInt64.ofNat (JobReport.items report))) none v₁.rested with
      ⟨halt | _, v₂⟩ <;> rfl

theorem exclusive_of_late (h : tryAcquire job lease w = (.ok true, v))
    (hwork : work (v.tending job lease) = (.error .timeUp, v₁)) :
    exclusive job lease work w = (.error .timeUp, v₁.rested) := by
  have hrenewing : whileRenewing job lease work v = (.ok (.error .timeUp), v₁.rested) := by
    have hdef : whileRenewing job lease work v =
        (.ok (work (v.tending job lease)).1, (work (v.tending job lease)).2.rested) := rfl
    rw [hdef, hwork]
  unfold exclusive
  rw [bind_apply_of_ok h, if_pos rfl, bind_apply_of_ok hrenewing]
  rfl

end Run

/-- A row apart from the end of its lease. -/
def JobLock.lasting (l : JobLock) : JobLock := { l with expiresAt := none }

def Store.lastingRow (s : Store) (job : String) : Option JobLock :=
  (s.locks.get? job).map JobLock.lasting

theorem Store.lastingRow_putLock (s : Store) (job j : String) (row : JobLock) :
    (s.putLock job row).lastingRow j = if j = job then some row.lasting else s.lastingRow j := by
  unfold lastingRow putLock
  rw [Table.get?_insert]
  split <;> rfl

/-- What is recorded of a run does not depend on when its lease ended. -/
theorem Store.Records.congr {s s' : Store} {job : String} {o : JobOutcome} (h : s.Records job o)
    (hrow : s'.lastingRow job = s.lastingRow job) : s'.Records job o := by
  obtain ⟨row, hget, hrecord⟩ := h
  unfold lastingRow at hrow
  rw [Option.mem_def.mp hget, Option.map_some] at hrow
  obtain ⟨row', hget', hlasting⟩ := Option.map_eq_some_iff.mp hrow
  cases row
  cases row'
  cases hlasting
  exact ⟨_, hget', hrecord⟩

/-- The row of a job whose run ended. -/
def JobLock.ended (l : JobLock) (o : JobOutcome) : JobLock :=
  { l with
    isRunning := false, lastResult := some o.result, itemsProcessed := o.items,
    errorMessage := o.errorMessage }

theorem Store.exists_of_lastingRow {s : Store} {job : String} {row : JobLock} {o : JobOutcome}
    (h : s.lastingRow job = some (row.ended o)) :
    ∃ shown ∈ s.locks.get? job, shown.isRunning = false ∧ shown.lastResult = some o.result ∧
      shown.itemsProcessed = o.items ∧ shown.errorMessage = o.errorMessage ∧
      shown.lockedBy = row.lockedBy := by
  obtain ⟨shown, hget, hlasting⟩ := Option.map_eq_some_iff.mp h
  cases row
  cases shown
  cases hlasting
  exact ⟨_, hget, rfl, rfl, rfl, rfl, rfl⟩

theorem Store.records_of_lastingRow {s : Store} {job : String} {row : JobLock} {o : JobOutcome}
    (h : s.lastingRow job = some (row.ended o)) : s.Records job o := by
  obtain ⟨shown, hget, hrunning, hresult, hitems, hmessage, -⟩ := exists_of_lastingRow h
  exact ⟨shown, hget, hrunning, hresult, hitems, hmessage⟩

theorem Store.renewLease_cases {s s' : Store} {job : String} {holder : WorkerId} {now : Timestamp}
    {lease : Duration} {r : Bool} (h : s.renewLease job holder now lease = .ok (r, s')) :
    s' = s ∨ ∃ row ends, s.locks.get? job = some row ∧
      s' = s.putLock job { row with expiresAt := some ends } := by
  unfold renewLease at h
  rcases hends : leaseEnd now lease with cause | ends <;> rw [hends] at h
  · cases h
  · rcases hrow : s.locks.get? job with _ | row <;>
      simp only [hrow, bind, Except.bind, pure, Except.pure] at h
    · cases h
      exact .inl rfl
    · split at h
      · cases h
        exact .inr ⟨row, ends, rfl, rfl⟩
      · cases h
        exact .inl rfl

theorem Store.locks_of_perform {s s' : Store} {k : StoreCall} {r : k.Result}
    (hk : k.isWrite = false ∨ k.isEpochWrite ∨ k.isDelegationWrite)
    (h : s.perform k = .ok (r, s')) : s'.locks = s.locks := by
  cases k with
  | acquireLease | releaseLease | renewLease =>
    simp [StoreCall.isWrite, StoreCall.isEpochWrite, StoreCall.isDelegationWrite] at hk
  | _ =>
    cases h
    rfl

namespace World

/-- No release of a lease meets a fault. -/
def Releases (w : World L) : Prop :=
  ∀ faults, w.faults.get? .releaseLease = some faults → ∀ fault ∈ faults, fault = none

theorem Releases.takeFault {w : World L} (h : w.Releases) :
    (w.takeFault .releaseLease).1 = none ∧ (w.takeFault .releaseLease).2.Releases := by
  unfold World.takeFault
  split
  · next fault rest hfaults =>
    obtain ⟨hfault, hrest⟩ := List.forall_mem_cons.mp (h _ hfaults)
    refine ⟨hfault, fun faults hget => ?_⟩
    dsimp only at hget
    rw [Table.get?_insert, if_pos rfl] at hget
    exact Option.some.inj hget ▸ hrest
  · exact ⟨rfl, h⟩

theorem Releases.call {w : World L} (h : w.Releases) (k : StoreCall) : (w.call k).2.Releases := by
  by_cases hk : k.method = .releaseLease
  · obtain ⟨-, hkept⟩ := h.takeFault
    have hfaults : (w.call k).2.faults = (w.takeFault k.method).2.faults := by
      have hnote (v : World L) : (v.note k).faults = v.faults := by
        unfold note
        split <;> rfl
      unfold World.call
      rcases w.takeFault k.method with ⟨_ | cause, v⟩
      · dsimp only
        rcases (v.note k).store.perform k with cause | ⟨r, s⟩ <;> exact hnote v
      · rfl
    unfold Releases
    rw [hfaults, hk]
    exact hkept
  · unfold Releases
    rw [w.call_faults hk]
    exact h

def SameWorker (w w' : World L) : Prop := w'.worker = w.worker

instance : IsPreorder (World L) SameWorker where
  refl _ := rfl
  trans _ _ _ h h' := Eq.trans h' h

/-- The rows of other jobs than some stay, apart from the ends of leases, and so does what the
worker knows to hold. -/
structure Spares (jobs : List String) (w w' : World L) : Prop where
  worker : w'.worker = w.worker
  rows : ∀ job, job ∉ jobs → w'.store.lastingRow job = w.store.lastingRow job
  releases : w.Releases → w'.Releases

namespace Spares

variable {jobs : List String} {w w' : World L}

instance : IsPreorder (World L) (Spares jobs) where
  refl _ := ⟨rfl, fun _ _ => rfl, id⟩
  trans _ _ _ h h' := ⟨h'.worker.trans h.worker,
    fun job hjob => (h'.rows job hjob).trans (h.rows job hjob),
    fun hw => h'.releases (h.releases hw)⟩

theorem mono {jobs' : List String} (h : Spares jobs w w') (hjobs : jobs ⊆ jobs') :
    Spares jobs' w w' := ⟨h.worker, fun job hjob => h.rows job fun hmem => hjob (hjobs hmem),
  h.releases⟩

theorem call (w : World L) {k : StoreCall}
    (hrows : ∀ r s, w.store.perform k = .ok (r, s) → ∀ job, job ∉ jobs →
      s.lastingRow job = w.store.lastingRow job) : Spares jobs w (w.call k).2 where
  worker := (w.call_frame k).2.2
  rows := by
    rcases w.call_cases k with ⟨r, v, hr, hp⟩ | ⟨cause, v, hr, hs⟩ <;> rw [hr]
    · exact hrows r v.store hp
    · exact fun job _ => congrArg (fun s => s.lastingRow job) hs
  releases h := h.call k

theorem beat (w : World L) (h : Heartbeat) : Spares jobs w (w.beat h) := by
  apply call
  intro r s hp job _
  obtain rfl | ⟨row, ends, hrow, rfl⟩ := Store.renewLease_cases hp
  · rfl
  · rw [Store.lastingRow_putLock]
    split
    · next hjob =>
      unfold Store.lastingRow
      rw [hjob, hrow]
      rfl
    · rfl

theorem advance (w : World L) (time : Nat) : Spares jobs w (w.advance time) := by
  have hbeats : Spares jobs w ((w.beats time).foldl World.beat w) :=
    List.foldlRecOn _ _ (refl_of (Spares jobs) w) fun v hv h _ =>
      trans_of (Spares jobs) hv (beat v h)
  exact ⟨hbeats.worker, hbeats.rows, hbeats.releases⟩

theorem frame [LedgerService L] {writes : StoreCall → Bool}
    (hwrites : ∀ k, writes k → k.isEpochWrite ∨ k.isDelegationWrite) :
    World.Frame writes (Spares jobs : World L → World L → Prop) := by
  have hcall (w : World L) (k : StoreCall)
      (hk : k.isWrite = false ∨ k.isEpochWrite ∨ k.isDelegationWrite) :
      Spares jobs w (w.call k).2 := by
    apply call
    intro r s hp job _
    unfold Store.lastingRow
    rw [Store.locks_of_perform hk hp]
  constructor
  · exact fun w q => ⟨rfl, fun _ _ => rfl, id⟩
  · exact fun w k hk => hcall w k (.inl hk)
  · exact fun w k hk => hcall w k (.inr (hwrites k hk))
  · exact advance
  · exact fun w cache => ⟨rfl, fun _ _ => rfl, id⟩

theorem syncEpochs [LedgerService L] (jobs : List String) (c : Settings) :
    Run.Shifts (Spares jobs) (Run.syncEpochs c : Run L EpochsReport) :=
  (frame fun _ => .inl).syncEpochs c

theorem syncDelegations [LedgerService L] (jobs : List String) (c : Settings) :
    Run.Shifts (Spares jobs) (Run.syncDelegations c : Run L DelegationsReport) :=
  (frame fun _ => .inr).syncDelegations c

end Spares

end World

namespace Run

variable [JobReport α] {job : String} {lease : Duration} {work : Run L α} {w v : World L}
  {o : JobOutcome}

theorem release_frame (job : String) (o : JobOutcome) (w : World L) :
    let released := release job o.result o.items o.errorMessage w
    released.2.worker = { w.worker with held := w.worker.held.erase job } ∧
      (w.Releases → released.2.Releases) ∧
      ∀ j, j ≠ job → released.2.store.lastingRow j = w.store.lastingRow j := by
  let v := w.holding (w.worker.held.erase job)
  let k : StoreCall := .releaseLease job w.worker.id o.result o.items o.errorMessage
  have hworker : (v.call k).2.worker = v.worker := (v.call_frame k).2.2
  have hreleases (hw : w.Releases) : (v.call k).2.Releases := World.Releases.call (w := v) hw k
  have hrows (j : String) (hj : j ≠ job) :
      (v.call k).2.store.lastingRow j = w.store.lastingRow j := by
    rcases v.call_cases k with ⟨r, v', hr, hp⟩ | ⟨cause, v', hr, hs⟩ <;> rw [hr]
    · change LeaseCall.perform w.store
        (.release job w.worker.id o.result o.items o.errorMessage) = _ at hp
      obtain ⟨row, -, -, hperform⟩ | ⟨-, -, hsame⟩ :=
        LeaseCall.release_cases w.store job w.worker.id o.result o.items o.errorMessage
      · rw [(LeaseCall.perform_unique hp hperform).2, Store.lastingRow_putLock, if_neg hj]
      · rw [← (LeaseCall.run_of_perform hp).symm.trans hsame]
    · exact congrArg (fun s => s.lastingRow j) hs
  intro released
  have hreleased : released.2 = (v.call k).2 := by
    have happly := release_apply job o.result o.items o.errorMessage w
    change released = _ at happly
    rw [happly]
    rcases (w.holding _).call _ with ⟨_ | _, v'⟩ <;> rfl
  rw [hreleased]
  exact ⟨hworker, hreleases, hrows⟩

theorem release_ends (hw : w.Releases) {row : JobLock}
    (hrow : w.store.lastingRow job = some row)
    (hholder : row.isRunning = true → row.lockedBy = some w.worker.id) (o : JobOutcome) :
    let released := release job o.result o.items o.errorMessage w
    released.1 = .ok () ∧ released.2.store.lastingRow job = some (row.ended o) := by
  let v := w.holding (w.worker.held.erase job)
  let k : StoreCall := .releaseLease job w.worker.id o.result o.items o.errorMessage
  have hanswer : (v.call k).1 = (w.store.perform k).map Prod.fst :=
    World.call_answer (w := v) (World.Releases.takeFault (w := v) hw).1
  obtain ⟨row, hget, rfl⟩ := Option.map_eq_some_iff.mp hrow
  have hperform : w.store.perform k = .ok (true, w.store.putLock job (row.ended o)) := by
    obtain ⟨row', hget', -, hperform⟩ | ⟨hnone | ⟨p, hp, hother⟩, -⟩ :=
      LeaseCall.release_cases w.store job w.worker.id o.result o.items o.errorMessage
    · obtain rfl := Option.some.inj (hget'.symm.trans hget)
      exact hperform
    · cases hnone.symm.trans hget
    · unfold Store.shown at hp
      rw [hget, Option.mem_def, Option.map_eq_some_iff] at hp
      obtain ⟨row', hshown, rfl⟩ := hp
      obtain ⟨hrow', hrunning⟩ := Option.filter_eq_some_iff.mp hshown
      obtain rfl := Option.some.inj hrow'
      exact absurd (hholder hrunning) hother
  have hcall : ∃ v', v.call k = (.ok true, v') ∧
      v'.store = w.store.putLock job (row.ended o) := by
    rcases v.call_cases k with ⟨r, v', hr, hp⟩ | ⟨cause, v', hr, -⟩
    · obtain ⟨rfl, hstore⟩ := Prod.mk.inj (Except.ok.inj (hp.symm.trans hperform))
      exact ⟨v', hr, hstore⟩
    · rw [hr, hperform] at hanswer
      cases hanswer
  obtain ⟨v', hcall, hstore⟩ := hcall
  intro released
  have hreleased : released = (.ok (), v') := by
    change release job o.result o.items o.errorMessage w = _
    rw [release_apply, hcall]
  rw [hreleased]
  refine ⟨rfl, ?_⟩
  dsimp only
  rw [hstore, Store.lastingRow_putLock, if_pos rfl]
  rfl

/-- The world in which an exclusive run does its work. -/
def begun (job : String) (lease : Duration) (w : World L) : World L :=
  (tryAcquire job lease w).2.tending job lease

/-- A run that takes its lease works in a world in which the row of its job shows the worker. -/
theorem begun_of_affirms (h : (tryAcquire job lease).affirms w = true) :
    tryAcquire job lease w = (.ok true, (tryAcquire job lease w).2) ∧ job ∉ w.worker.held ∧
      (begun job lease w).worker = { w.worker with held := job :: w.worker.held } ∧
      (w.Releases → (begun job lease w).Releases) ∧
      ∃ row, (begun job lease w).store = w.store.putLock job row ∧
        row.lockedBy = some w.worker.id := by
  have hframe := w.call_frame (.acquireLease job w.worker.id w.now lease)
  have hreleases (hw : w.Releases) := hw.call (.acquireLease job w.worker.id w.now lease)
  unfold affirms at h
  unfold begun
  rcases tryAcquire_cases job lease w with ⟨hr, hmem, row, hstore, -, hholder⟩ |
    ⟨r, v', hr, -, -, hrefused⟩ <;> rw [hr] at h ⊢
  · refine ⟨rfl, hmem, ?_, hreleases, row, hstore, hholder⟩
    exact congrArg (fun worker : Worker => { worker with held := job :: w.worker.held }) hframe.2.2
  · rcases hrefused with rfl | ⟨cause, rfl⟩ <;> simp [Except.toOption] at h

theorem exclusive_refused (work : Run L α) (h : (tryAcquire job lease).affirms w = false) :
    (exclusive job lease work w).2.store = w.store ∧
      (exclusive job lease work w).2.worker = w.worker ∧
      (exclusive job lease work w).2.requests = w.requests ∧
      (w.Releases → (exclusive job lease work w).2.Releases) ∧
      ((exclusive job lease work w).1 = .ok .alreadyRunning ∨
        ∃ cause, (exclusive job lease work w).1 = .error (.failed cause)) := by
  obtain ⟨store, faults, writes, hcall⟩ :=
    w.call_changes (.acquireLease job w.worker.id w.now lease)
  have hreleases (hw : w.Releases) := hw.call (.acquireLease job w.worker.id w.now lease)
  unfold affirms at h
  rcases tryAcquire_cases job lease w with ⟨hr, -⟩ | ⟨r, v', hr, hv, hstore, hrefused⟩
  · simp [hr, Except.toOption] at h
  · have hne : r ≠ .ok true := by rcases hrefused with rfl | ⟨cause, rfl⟩ <;> simp
    rw [exclusive_of_refused hr hne]
    refine ⟨hstore, ?_, ?_, ?_, ?_⟩
    · rcases hv with rfl | rfl
      · rfl
      · rw [hcall]
    · rcases hv with rfl | rfl
      · rfl
      · rw [hcall]
    · rcases hv with rfl | rfl
      · exact id
      · exact hreleases
    · rcases hrefused with rfl | ⟨cause, rfl⟩
      · exact .inl rfl
      · exact .inr ⟨cause, rfl⟩

theorem exclusive_completes (haffirms : (tryAcquire job lease).affirms w = true) :
    (exclusive job lease work w).1 ≠ .ok .alreadyRunning := by
  obtain ⟨hacquired, -⟩ := begun_of_affirms haffirms
  rcases hr : work (begun job lease w) with ⟨r, v₁⟩
  rcases ho : JobOutcome.of r with _ | o
  · rw [JobOutcome.of_eq_none ho] at hr
    rw [exclusive_of_late hacquired hr]
    exact nofun
  · rw [exclusive_of_acquired hacquired hr ho]
    rcases r with halt | report
    · exact nofun
    · dsimp only
      rcases (release job o.result o.items o.errorMessage v₁.rested).1 with _ | _ <;>
        simp [Except.map, Except.bind]

/-- Whatever an action comes to by itself, the world behind it is related to the world before it. -/
def Ends (R : World L → World L → Prop) (m : Run L α) : Prop :=
  ∀ w, (m w).1 ≠ .error .timeUp → R w (m w).2

omit [JobReport α] in
theorem Ends.bind {β : Type} {R : World L → World L → Prop} [IsPreorder (World L) R]
    {m : Run L β} {f : β → Run L α} (hm : Ends R m) (hf : ∀ b, Ends R (f b)) :
    Ends R (m >>= f) := by
  intro w hends
  have hfirst := hm w
  rw [bind_apply] at hends ⊢
  rcases hr : m w with ⟨halt | b, v⟩ <;> rw [hr] at hends hfirst
  · exact hfirst fun hlate => hends (by cases hlate; rfl)
  · exact trans_of R (hfirst nofun) (hf b v hends)

theorem exclusive_released (haffirms : (tryAcquire job lease).affirms w = true)
    (hends : (exclusive job lease work w).1 ≠ .error .timeUp) :
    ∃ o ∈ JobOutcome.of (work (begun job lease w)).1, (exclusive job lease work w).2 =
      (release job o.result o.items o.errorMessage (work (begun job lease w)).2.rested).2 := by
  have hacquired := (begun_of_affirms haffirms).1
  rcases hr : work (begun job lease w) with ⟨r, v₁⟩
  rcases ho : JobOutcome.of r with _ | o
  · rw [JobOutcome.of_eq_none ho] at hr
    exact absurd (congrArg Prod.fst (exclusive_of_late hacquired hr)) hends
  · exact ⟨o, rfl, congrArg Prod.snd (exclusive_of_acquired hacquired hr ho)⟩

theorem exclusive_worker (hwork : Ends World.SameWorker work) :
    Ends World.SameWorker (exclusive job lease work) := by
  intro w hends
  rcases haffirms : (tryAcquire job lease).affirms w with _ | _
  · exact (exclusive_refused work haffirms).2.1
  · obtain ⟨o, ho, hreleased⟩ := exclusive_released haffirms hends
    have hback : (work (begun job lease w)).2.worker =
        { w.worker with held := job :: w.worker.held } :=
      (hwork _ (JobOutcome.ne_timeUp ho)).trans (begun_of_affirms haffirms).2.2.1
    change (exclusive job lease work w).2.worker = w.worker
    rw [hreleased]
    refine (release_frame job o _).1.trans ?_
    change ({ (work (begun job lease w)).2.worker with
      held := (work (begun job lease w)).2.worker.held.erase job } : Worker) = w.worker
    rw [hback]
    simp

section

variable {jobs : List String} (hwork : Ends (World.Spares jobs) work)
include hwork

theorem exclusive_spares : Ends (World.Spares (job :: jobs)) (exclusive job lease work) := by
  intro w hends
  have hworker := exclusive_worker (fun w hends => (hwork w hends).worker) w hends
  rcases haffirms : (tryAcquire job lease).affirms w with _ | _
  · obtain ⟨hstore, -, -, hreleases, -⟩ := exclusive_refused work haffirms
    exact ⟨hworker, fun j _ => congrArg (fun s => s.lastingRow j) hstore, hreleases⟩
  · obtain ⟨o, ho, hreleased⟩ := exclusive_released haffirms hends
    obtain ⟨-, -, -, hbegins, row, hstore, -⟩ := begun_of_affirms haffirms
    have hspares := hwork _ (JobOutcome.ne_timeUp ho)
    obtain ⟨-, hreleases, hrows⟩ := release_frame job o (work (begun job lease w)).2.rested
    refine ⟨hworker, fun j hj => ?_, fun hw => ?_⟩ <;> rw [hreleased]
    · obtain ⟨hother, hjob⟩ := not_or.mp fun hmem => hj (List.mem_cons.mpr hmem)
      refine (hrows j hother).trans ((hspares.rows j hjob).trans ?_)
      rw [hstore, Store.lastingRow_putLock, if_neg hother]
    · exact hreleases (hspares.releases (hbegins hw))

/-- An exclusive run that takes its lease, and whose work spares it, comes to what its work comes
to, and the row of its job, which shows the worker, ends as the work ended. Other rows it leaves as
its work does. -/
theorem exclusive_ends (haffirms : (tryAcquire job lease).affirms w = true) (hw : w.Releases)
    (hjob : job ∉ jobs) (ho : JobOutcome.of (work (begun job lease w)).1 = some o) :
    (exclusive job lease work w).1 = (work (begun job lease w)).1.map .completed ∧
      (∃ row : JobLock, row.lockedBy = some w.worker.id ∧
        (exclusive job lease work w).2.store.lastingRow job = some (row.ended o)) ∧
      ∀ j, j ≠ job → (exclusive job lease work w).2.store.lastingRow j =
        (work (begun job lease w)).2.store.lastingRow j := by
  obtain ⟨hacquired, -, hworker, hbegins, row, hstore, hholder⟩ := begun_of_affirms haffirms
  have hspares := hwork (begun job lease w) (JobOutcome.ne_timeUp ho)
  rcases hr : work (begun job lease w) with ⟨r, v₁⟩
  rw [hr] at hspares ho
  have hrow : v₁.rested.store.lastingRow job = some row.lasting := by
    refine (hspares.rows job hjob).trans ?_
    rw [hstore, Store.lastingRow_putLock, if_pos rfl]
  have hid : row.lasting.isRunning = true → row.lasting.lockedBy = some v₁.rested.worker.id := by
    intro _
    change row.lockedBy = some v₁.worker.id
    rw [hholder, hspares.worker, hworker]
  obtain ⟨hok, hends⟩ := release_ends (w := v₁.rested) (hspares.releases (hbegins hw)) hrow hid o
  rw [exclusive_of_acquired hacquired hr ho]
  refine ⟨?_, ⟨row.lasting, hholder, hends⟩, (release_frame job o v₁.rested).2.2⟩
  rcases r with halt | report
  · rfl
  · dsimp only
    rw [hok]
    rfl

theorem exclusive_spared (haffirms : (tryAcquire job lease).affirms w = true) (hw : w.Releases)
    (hjob : job ∉ jobs) (ho : JobOutcome.of (work (begun job lease w)).1 = some o) :
    (exclusive job lease work w).1 = (work (begun job lease w)).1.map .completed ∧
      (exclusive job lease work w).2.store.Records job o ∧
      ∀ j, j ≠ job → (exclusive job lease work w).2.store.lastingRow j =
        (work (begun job lease w)).2.store.lastingRow j := by
  obtain ⟨hcomes, ⟨row, -, hrow⟩, hrows⟩ := exclusive_ends hwork haffirms hw hjob ho
  exact ⟨hcomes, Store.records_of_lastingRow hrow, hrows⟩

/-- Such a run has a record unless its time is up. -/
theorem exclusive_records (haffirms : (tryAcquire job lease).affirms w = true) (hw : w.Releases)
    (hjob : job ∉ jobs) (hends : (exclusive job lease work w).1 ≠ .error .timeUp) :
    (∃ o ∈ JobOutcome.of (work (begun job lease w)).1,
        (exclusive job lease work w).1 = (work (begun job lease w)).1.map .completed ∧
        (exclusive job lease work w).2.store.Records job o) ∧
      ∀ j, j ≠ job → (exclusive job lease work w).2.store.lastingRow j =
        (work (begun job lease w)).2.store.lastingRow j := by
  obtain ⟨o, ho, -⟩ := exclusive_released haffirms hends
  obtain ⟨hcomes, hrecords, hrows⟩ := exclusive_spared hwork haffirms hw hjob ho
  exact ⟨⟨o, ho, hcomes, hrecords⟩, hrows⟩

theorem exclusive_comes (haffirms : (tryAcquire job lease).affirms w = true) (hw : w.Releases)
    (hjob : job ∉ jobs) :
    (exclusive job lease work w).1 = (work (begun job lease w)).1.map .completed := by
  rcases ho : JobOutcome.of (work (begun job lease w)).1 with _ | o
  · have hlate : work (begun job lease w) = (.error .timeUp, (work (begun job lease w)).2) :=
      Prod.ext (JobOutcome.of_eq_none ho) rfl
    rw [exclusive_of_late (begun_of_affirms haffirms).1 hlate, hlate]
    rfl
  · exact (exclusive_spared hwork haffirms hw hjob ho).1

end

end Run

end GovernanceIndex
