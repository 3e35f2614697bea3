import GovernanceIndex.Jobs.Sync
import GovernanceIndex.Proofs.Jobs.ExclusiveRuns
import GovernanceIndex.Proofs.Sync.Backlog

/-!
What an exclusive run keeps. Beside its work such a run takes the lease of its job, has it renewed,
and gives it up again. A relation of worlds that each of these moves along, and that the work moves
along, frames the whole run. So what happens elsewhere than at a job does not change whether the
job's lease is granted.
-/
namespace GovernanceIndex

/-- Worlds are related along all that is done about the lease of a job. -/
structure World.LeaseFrame {L : Type} (job : String) (R : World L → World L → Prop) : Prop where
  acquire : ∀ (w : World L) lease, R w (w.call (.acquireLease job w.worker.id w.now lease)).2
  release : ∀ (w : World L) result items errorMessage,
    R w (w.call (.releaseLease job w.worker.id result items errorMessage)).2
  hold : ∀ w : World L, R w (w.holding (job :: w.worker.held))
  drop : ∀ w : World L, R w (w.holding (w.worker.held.erase job))
  tend : ∀ (w : World L) lease, R w (w.tending job lease)
  rest : ∀ w : World L, R w w.rested

theorem Run.ne_ok_of_not_affirms {L : Type} {m : Run L Bool} {w : World L}
    (h : m.affirms w = false) : (m w).1 ≠ .ok true := by
  intro hr
  simp [affirms, hr, Except.toOption] at h

namespace World.LeaseFrame

open Run

variable {L α : Type} {job : String} {R : World L → World L → Prop} [IsPreorder (World L) R]
  (h : World.LeaseFrame job R)
include h

theorem tryAcquire (lease : Duration) : Shifts R (Run.tryAcquire job lease) := by
  intro w
  have hcall := h.acquire w lease
  rcases tryAcquire_cases job lease w with ⟨hr, -⟩ | ⟨r, v, hr, hv, -⟩ <;> rw [hr]
  · have hhold := h.hold (w.call (.acquireLease job w.worker.id w.now lease)).2
    rw [(w.call_frame _).2.2] at hhold
    exact trans_of R hcall hhold
  · rcases hv with rfl | rfl
    · exact refl_of R v
    · exact hcall

theorem begun (lease : Duration) (w : World L) : R w (Run.begun job lease w) :=
  trans_of R (h.tryAcquire lease w) (h.tend _ lease)

theorem giveUp (result : JobResult) (items : Option UInt64) (errorMessage : Option String) :
    Shifts R (Run.release job result items errorMessage) := by
  intro w
  have hcall := trans_of R (h.drop w) (h.release _ result items errorMessage)
  rw [release_apply]
  dsimp only [World.holding] at hcall ⊢
  split <;> next hr =>
    rw [hr] at hcall
    exact hcall

variable [JobReport α] {lease : Duration} {w : World L}

theorem behind (work : Run L α) (haffirms : (Run.tryAcquire job lease).affirms w = true) :
    R (work (Run.begun job lease w)).2 (Run.exclusive job lease work w).2 := by
  have hacquired := (begun_of_affirms haffirms).1
  rcases hr : work (Run.begun job lease w) with ⟨r, v⟩
  rcases ho : JobOutcome.of r with _ | o
  · rw [JobOutcome.of_eq_none ho] at hr
    rw [exclusive_of_late hacquired hr]
    exact h.rest v
  · rw [exclusive_of_acquired hacquired hr ho]
    exact trans_of R (h.rest v) (h.giveUp o.result o.items o.errorMessage _)

theorem refused (work : Run L α) (haffirms : (Run.tryAcquire job lease).affirms w = false) :
    R w (Run.exclusive job lease work w).2 := by
  have hmoved := h.tryAcquire lease w
  rw [exclusive_of_refused rfl (ne_ok_of_not_affirms haffirms)]
  exact hmoved

theorem exclusive {work : Run L α} (hwork : Shifts R work) :
    Shifts R (Run.exclusive job lease work) := by
  intro w
  rcases haffirms : (Run.tryAcquire job lease).affirms w with _ | _
  · exact h.refused work haffirms
  · exact trans_of R (h.begun lease w) (trans_of R (hwork _) (h.behind work haffirms))

end World.LeaseFrame

theorem World.CallFrame.leaseFrame {L : Type} {S : Store → Store → Prop}
    {R : World L → World L → Prop} (h : CallFrame S R)
    (hdata : ∀ s s', Store.SameData s s' → S s s') (job : String) : LeaseFrame job R where
  acquire w _ := h.call w _ fun _ s hp => hdata _ s (Store.acquireLease_sameData hp)
  release w _ _ _ := h.call w _ fun _ s hp => hdata _ s (Store.releaseLease_sameData hp)
  hold w := h.still w _ rfl rfl
  drop w := h.still w _ rfl rfl
  tend w _ := h.still w _ rfl rfl
  rest w := h.still w _ rfl rfl

namespace World

variable {L : Type} [LedgerService L]

def after (w : World L) (c : Settings) : (job : Job) → World L
  | .epochSync => (Run.runEpochSync c w).2
  | .delegationSync => (Run.runDelegationSync c w).2
  | .fullSync => (Run.runFullSync c w).2

/-- A job moves along what its syncs, their leases and the loss of what was remembered move
along. -/
theorem after_shifts {R : World L → World L → Prop} [IsPreorder (World L) R] {c : Settings}
    (hlease : ∀ job, LeaseFrame job R) (hforget : ∀ w : World L, R w { w with cache := {} })
    (hepochs : Run.Shifts R (Run.syncEpochs c : Run L EpochsReport))
    (hdelegations : Run.Shifts R (Run.syncDelegations c : Run L DelegationsReport))
    (w : World L) (job : Job) : R w (w.after c job) := by
  have hforgetting {α : Type} {work : Run L α} (hwork : Run.Shifts R work) :
      Run.Shifts R (Run.forgetting work) := fun w => trans_of R (hforget w) (hwork _)
  have hepochJob : Run.Shifts R (Run.epochJob c : Run L _) := (hlease _).exclusive hepochs
  have hdelegationJob : Run.Shifts R (Run.delegationJob c : Run L _) :=
    (hlease _).exclusive hdelegations
  cases job with
  | epochSync => exact hforgetting hepochJob w
  | delegationSync => exact hforgetting hdelegationJob w
  | fullSync =>
    have hfull : Run.Shifts R (Run.runFullSync c : Run L (JobRun FullReport)) := by
      unfold Run.runFullSync
      split
      · exact Run.Shifts.throw _
      · exact (hlease _).exclusive <| hforgetting <| Run.Shifts.bind hepochJob fun _ =>
          Run.Shifts.bind hdelegationJob fun _ => Run.Shifts.pure _
    exact hfull w

end World

theorem LeaseCall.perform_elsewhere {s s' : Store} {k : LeaseCall} {r : Bool}
    (h : k.perform s = .ok (r, s')) {job : String} (hjob : k.job ≠ job) :
    s'.locks.get? job = s.locks.get? job := by
  have hput (row : JobLock) : (s.putLock k.job row).locks.get? job = s.locks.get? job := by
    unfold Store.putLock
    rw [Table.get?_insert, if_neg (Ne.symm hjob)]
  cases k with
  | acquire j holder now lease =>
    obtain ⟨-, row, -, -, hperform, -⟩ | ⟨-, -, hsame⟩ := acquire_cases s j holder now lease
    · obtain ⟨-, rfl⟩ := perform_unique h hperform
      exact hput row
    · rw [← run_of_perform h, hsame]
  | renew j holder now lease =>
    obtain ⟨-, row, -, -, hperform, -⟩ | ⟨-, -, hsame⟩ := renew_cases s j holder now lease
    · obtain ⟨-, rfl⟩ := perform_unique h hperform
      exact hput row
    · rw [← run_of_perform h, hsame]
  | release j holder result items errorMessage =>
    obtain ⟨row, -, -, hperform⟩ | ⟨-, -, hsame⟩ :=
      release_cases s j holder result items errorMessage
    · obtain ⟨-, rfl⟩ := perform_unique h hperform
      exact hput _
    · rw [← run_of_perform h, hsame]

namespace World

variable {L : Type}

theorem mem_heartbeats_of_mem_beats {w : World L} {time : Nat} {h : Heartbeat}
    (hmem : h ∈ w.beats time) : h ∈ w.heartbeats := by
  obtain ⟨beat, hbeat, rfl⟩ := List.mem_map.mp hmem
  obtain ⟨h, hrunning, hdue⟩ := List.mem_flatMap.mp (List.mem_mergeSort.mp hbeat)
  obtain ⟨t, -, rfl⟩ := List.mem_map.mp hdue
  exact hrunning

/-- A worker has only those leases renewed that it knows to hold. -/
def RenewsHeld (w : World L) : Prop := ∀ h ∈ w.heartbeats, h.job ∈ w.worker.held

def atTime (w : World L) (now : Timestamp) : World L := { w with now }

/-- Between two worlds of a worker all happened elsewhere than at a job. Its row stays as it is if
its lease is not renewed. -/
structure Elsewhere (job : String) (w w' : World L) : Prop where
  now : w'.now = w.now
  id : w'.worker.id = w.worker.id
  held : job ∈ w'.worker.held ↔ job ∈ w.worker.held
  row : (∀ h ∈ w.heartbeats, h.job ≠ job) →
    (∀ h ∈ w'.heartbeats, h.job ≠ job) ∧ w'.store.locks.get? job = w.store.locks.get? job

instance (job : String) : IsPreorder (World L) (Elsewhere job) where
  refl _ := ⟨rfl, rfl, Iff.rfl, fun hbeats => ⟨hbeats, rfl⟩⟩
  trans _ _ _ h h' := by
    refine ⟨h'.now.trans h.now, h'.id.trans h.id, h'.held.trans h.held, fun hbeats => ?_⟩
    obtain ⟨hbeats, hrow⟩ := h.row hbeats
    obtain ⟨hbeats', hrow'⟩ := h'.row hbeats
    exact ⟨hbeats', hrow'.trans hrow⟩

namespace Elsewhere

variable {job other : String} {w w' : World L}

theorem atTime {t : Timestamp} (h : Elsewhere job (w.atTime t) w') (now : Timestamp) :
    Elsewhere job (w.atTime now) (w'.atTime now) := ⟨rfl, h.id, h.held, h.row⟩

theorem call (w : World L) {k : StoreCall}
    (hk : ∀ r s, w.store.perform k = .ok (r, s) → s.locks.get? job = w.store.locks.get? job) :
    Elsewhere job w (w.call k).2 := by
  obtain ⟨store, faults, writes, hcall⟩ := w.call_changes k
  have hrow : (w.call k).2.store.locks.get? job = w.store.locks.get? job := by
    rcases w.call_cases k with ⟨r, v, hr, hp⟩ | ⟨cause, v, hr, hs⟩ <;> rw [hr]
    · exact hk r v.store hp
    · exact congrArg (fun s : Store => s.locks.get? job) hs
  rw [hcall] at hrow ⊢
  exact ⟨rfl, rfl, Iff.rfl, fun hbeats => ⟨hbeats, hrow⟩⟩

theorem leaseFrame (hother : other ≠ job) :
    LeaseFrame other (Elsewhere job : World L → World L → Prop) where
  acquire w lease := call w fun r s hp =>
    LeaseCall.perform_elsewhere (k := .acquire other w.worker.id w.now lease) hp hother
  release w result items errorMessage := call w fun r s hp =>
    LeaseCall.perform_elsewhere (k := .release other w.worker.id result items errorMessage) hp
      hother
  hold w := by
    refine ⟨rfl, rfl, ?_, fun hbeats => ⟨hbeats, rfl⟩⟩
    exact List.mem_cons.trans (or_iff_right (Ne.symm hother))
  drop w := ⟨rfl, rfl, List.mem_erase_of_ne (Ne.symm hother), fun hbeats => ⟨hbeats, rfl⟩⟩
  tend w lease := by
    refine ⟨rfl, rfl, Iff.rfl, fun hbeats => ⟨fun h hmem => ?_, rfl⟩⟩
    rcases List.mem_append.mp hmem with hmem | hmem
    · exact hbeats h hmem
    · obtain rfl := List.mem_singleton.mp hmem
      exact hother
  rest w := ⟨rfl, rfl, Iff.rfl,
    fun hbeats => ⟨fun h hmem => hbeats h (List.dropLast_subset _ hmem), rfl⟩⟩

theorem advance (w : World L) (time : Nat) : Elsewhere job w (w.advance time) := by
  -- Beats change neither the time nor what the worker holds, whatever lease they renew.
  have hframe : ((w.beats time).foldl World.beat w).now = w.now ∧
      ((w.beats time).foldl World.beat w).worker = w.worker := by
    apply List.foldlRecOn (motive := fun v : World L => v.now = w.now ∧ v.worker = w.worker)
    · exact ⟨rfl, rfl⟩
    intro v hv h _
    obtain ⟨store, faults, writes, hcall⟩ :=
      v.call_changes (.renewLease h.job v.worker.id v.now h.lease)
    have hbeat : v.beat h = { v with store, faults, writes } := hcall
    rw [hbeat]
    exact hv
  refine ⟨hframe.1, congrArg Worker.id hframe.2, ?_, fun hrenewed => ⟨?_, ?_⟩⟩
  · exact iff_of_eq (congrArg (fun x : Worker => job ∈ x.held) hframe.2)
  · intro h hmem
    obtain ⟨before, hbefore, rfl⟩ := List.mem_map.mp hmem
    exact hrenewed before hbefore
  · have hbeat (v : World L) {h : Heartbeat} (hjob : h.job ≠ job) : Elsewhere job v (v.beat h) :=
      call v fun r s hp =>
        LeaseCall.perform_elsewhere (k := .renew h.job v.worker.id v.now h.lease) hp hjob
    have hbeats : Elsewhere job w ((w.beats time).foldl World.beat w) :=
      List.foldlRecOn _ _ (refl_of (Elsewhere job) w) fun v hv h hmem =>
        trans_of (Elsewhere job) hv (hbeat v (hrenewed h (mem_heartbeats_of_mem_beats hmem)))
    exact (hbeats.row hrenewed).2

theorem frame [LedgerService L] {writes : StoreCall → Bool}
    (hwrites : ∀ k, writes k → k.isEpochWrite ∨ k.isDelegationWrite) :
    World.Frame writes (Elsewhere job : World L → World L → Prop) where
  ask _ _ := ⟨rfl, rfl, Iff.rfl, fun hbeats => ⟨hbeats, rfl⟩⟩
  read w _ hk := call w fun _ _ hp => by rw [Store.locks_of_perform (.inl hk) hp]
  write w k hk := call w fun _ _ hp => by rw [Store.locks_of_perform (.inr (hwrites k hk)) hp]
  advance := advance
  remember _ _ := ⟨rfl, rfl, Iff.rfl, fun hbeats => ⟨hbeats, rfl⟩⟩

end Elsewhere

end World

theorem Timestamp.add?_mono {t : Timestamp} {d d' : Duration} (hd : d'.nanos ≤ d.nanos)
    (h : (t.add? d).isSome) : (t.add? d').isSome := by
  unfold add? Duration.secs Duration.subsecNanos at h ⊢
  dsimp only [nanosPerSecond] at h ⊢
  split at h <;> split
  · rfl
  · omega
  · rfl
  · rw [Option.isSome_ite] at h ⊢
    omega

namespace Run

variable {L : Type} {job : String} {lease : Duration} {w w' : World L}

theorem acquireLease_answer (s : Store) (job : String) (holder : WorkerId) (now : Timestamp)
    (lease : Duration) :
    (s.acquireLease job holder now lease).map Prod.fst =
      (Store.leaseEnd now lease).map fun _ =>
        (s.locks.get? job).all fun row => !row.isRunning || row.isExpired now := by
  unfold Store.acquireLease
  rcases Store.leaseEnd now lease with cause | ends
  · rfl
  · dsimp only [bind, Except.bind]
    rcases s.locks.get? job with _ | row
    · rfl
    · rcases hrunning : row.isRunning <;> rcases hexpired : row.isExpired now <;>
        simp [hrunning, hexpired, Except.map, pure, Except.pure]

theorem tryAcquire_answer (hw : w.Faultless) (hheld : job ∉ w.worker.held) :
    (tryAcquire job lease w).1 =
      ((w.store.acquireLease job w.worker.id w.now lease).map Prod.fst).mapError
        fun cause => .failed (.store cause) := by
  have hanswer : (w.call (.acquireLease job w.worker.id w.now lease)).1 =
      (w.store.acquireLease job w.worker.id w.now lease).map Prod.fst :=
    World.call_answer (hw.takeFault .acquireLease).1
  rw [← hanswer]
  unfold tryAcquire
  rw [get_bind_apply, if_neg (by simpa using hheld), bind_apply, call_eq]
  rcases w.call (.acquireLease job w.worker.id w.now lease) with ⟨_ | _ | _, v⟩ <;> rfl

theorem tryAcquire_of_held (hheld : job ∈ w.worker.held) :
    tryAcquire job lease w = (.ok false, w) := by
  unfold tryAcquire
  rw [get_bind_apply, if_pos (by simpa using hheld)]
  rfl

theorem tryAcquire_decides (hw : w.Faultless) (hends : (w.now.add? lease).isSome) :
    ∃ granted, (tryAcquire job lease w).1 = .ok granted := by
  by_cases hheld : job ∈ w.worker.held
  · exact ⟨false, congrArg Prod.fst (tryAcquire_of_held hheld)⟩
  · obtain ⟨ends, hends⟩ := Option.isSome_iff_exists.mp hends
    rw [tryAcquire_answer hw hheld, acquireLease_answer]
    unfold Store.leaseEnd
    rw [hends]
    exact ⟨_, rfl⟩

/-- What happens elsewhere than at a job does not change whether its lease is granted. -/
theorem tryAcquire_elsewhere (h : World.Elsewhere job w w') (hw : w.Faultless) (hw' : w'.Faultless)
    (hrenews : w.RenewsHeld) :
    (tryAcquire job lease w').1 = (tryAcquire job lease w).1 := by
  by_cases hheld : job ∈ w.worker.held
  · rw [tryAcquire_of_held hheld, tryAcquire_of_held (h.held.mpr hheld)]
  · have hrow := (h.row fun b hb hjob => hheld (hjob ▸ hrenews b hb)).2
    rw [tryAcquire_answer hw hheld, tryAcquire_answer hw' (fun hmem => hheld (h.held.mp hmem)),
      acquireLease_answer, acquireLease_answer, h.now, hrow]

end Run

namespace World

variable {L : Type}

/-- The worker knows to hold the same leases and has leases of the same jobs renewed. -/
structure SameRenewals (w w' : World L) : Prop where
  worker : w'.worker = w.worker
  jobs : w'.heartbeats.map (fun h => h.job) = w.heartbeats.map fun h => h.job

instance : IsPreorder (World L) SameRenewals where
  refl _ := ⟨rfl, rfl⟩
  trans _ _ _ h h' := ⟨h'.worker.trans h.worker, h'.jobs.trans h.jobs⟩

namespace SameRenewals

variable {w w' : World L}

theorem renewsHeld (h : SameRenewals w w') (hw : w.RenewsHeld) : w'.RenewsHeld := by
  intro x hx
  obtain ⟨y, hy, hjob⟩ := List.mem_map.mp (h.jobs ▸ List.mem_map_of_mem hx)
  rw [h.worker, ← hjob]
  exact hw y hy

theorem call (w : World L) (k : StoreCall) : SameRenewals w (w.call k).2 := by
  obtain ⟨store, faults, writes, hcall⟩ := w.call_changes k
  rw [hcall]
  exact ⟨rfl, rfl⟩

theorem advance (w : World L) (time : Nat) : SameRenewals w (w.advance time) := by
  have hbeats : SameRenewals w ((w.beats time).foldl World.beat w) :=
    List.foldlRecOn _ _ (refl_of SameRenewals w) fun v hv h _ =>
      trans_of SameRenewals hv (call v _)
  exact ⟨hbeats.worker, List.map_map⟩

theorem frame [LedgerService L] (writes : StoreCall → Bool) :
    World.Frame writes (SameRenewals : World L → World L → Prop) where
  ask _ _ := ⟨rfl, rfl⟩
  read w k _ := call w k
  write w k _ := call w k
  advance := advance
  remember _ _ := ⟨rfl, rfl⟩

end SameRenewals

end World

namespace Run

variable {L α : Type} [JobReport α] {job : String} {lease : Duration} {work : Run L α}

omit [JobReport α] in
theorem tryAcquire_renewals (job : String) (lease : Duration) (w : World L) :
    (tryAcquire job lease w).2.heartbeats.map (fun h => h.job) =
      w.heartbeats.map fun h => h.job := by
  have hcall := World.SameRenewals.call w (.acquireLease job w.worker.id w.now lease)
  rcases tryAcquire_cases job lease w with ⟨hr, -⟩ | ⟨r, v, hr, rfl | rfl, -⟩ <;> rw [hr]
  · exact hcall.jobs
  · exact hcall.jobs

omit [JobReport α] in
theorem release_renewals (job : String) (o : JobOutcome) (w : World L) :
    (release job o.result o.items o.errorMessage w).2.heartbeats.map (fun h => h.job) =
      w.heartbeats.map fun h => h.job := by
  have hcall := World.SameRenewals.call (w.holding (w.worker.held.erase job))
    (.releaseLease job w.worker.id o.result o.items o.errorMessage)
  rw [release_apply]
  split <;> next hr =>
    rw [hr] at hcall
    exact hcall.jobs

/-- An exclusive run that ends by itself leaves no renewals behind. -/
theorem exclusive_renewals (hwork : Ends World.SameRenewals work) :
    Ends World.SameRenewals (exclusive job lease work) := by
  intro w hends
  refine ⟨exclusive_worker (fun w hends => (hwork w hends).worker) w hends, ?_⟩
  have hacquire := tryAcquire_renewals job lease w
  rcases haffirms : (tryAcquire job lease).affirms w with _ | _
  · rw [exclusive_of_refused rfl (ne_ok_of_not_affirms haffirms)]
    exact hacquire
  · obtain ⟨o, ho, hreleased⟩ := exclusive_released haffirms hends
    have hbehind := (hwork _ (JobOutcome.ne_timeUp ho)).jobs
    have hbegun : (begun job lease w).heartbeats.map (fun h => h.job) =
        w.heartbeats.map (fun h => h.job) ++ [job] := by
      unfold begun World.tending
      rw [List.map_append, hacquire]
      rfl
    rw [hreleased, release_renewals]
    unfold World.rested
    rw [List.map_dropLast, hbehind, hbegun, List.dropLast_concat]

end Run

end GovernanceIndex
