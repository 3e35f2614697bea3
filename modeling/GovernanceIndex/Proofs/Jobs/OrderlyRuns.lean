import GovernanceIndex.Proofs.Config
import GovernanceIndex.Proofs.Jobs.LeaseFrames
import GovernanceIndex.Proofs.Sync.CommittedHistories

/-!
Runs that crash and runs that do not. A run of a job ends, fails, or is cut short by the deadline,
whatever its settings are. There are two ways to crash. A full sync crashes before it begins if the
leases of its parts have no sum. A sync of delegations crashes if the addresses that it found,
beside the histories that were committed ever, are too many for a word of 64 bits.
-/
namespace GovernanceIndex

open World (Counted Tallies Within)

def JobRun.isCompleted {α : Type} : JobRun α → Bool
  | .completed _ => true
  | .alreadyRunning => false

/-- How the store refuses a lease that has no end. -/
def StoreError.outOfRange (lease : Duration) : StoreError :=
  .storage ("lease out of range: " ++ lease.text)

/-- What a run came to that asked for a lease without an end. No row was changed, and the run was
told so by the store, unless the worker knew to hold the lease already or a fault came first. -/
structure World.Unending {L : Type} (w : World L) (job : String) (lease : Duration)
    (r : Except Halt Bool) (s : Store) : Prop where
  store : s = w.store
  refused : r = .ok false ∧ job ∈ w.worker.held ∨ ∃ cause, r = .error (.failed (.store cause))
  told : job ∉ w.worker.held → (w.takeFault .acquireLease).1 = none →
    r = .error (.failed (.store (.outOfRange lease)))

namespace Run

variable {L α : Type} [JobReport α] {job : String} {lease : Duration} {work : Run L α}
  {w v : World L}

theorem exclusive_of_halt (haffirms : (tryAcquire job lease).affirms w = true) {halt : Halt}
    (hwork : work (begun job lease w) = (.error halt, v)) :
    (exclusive job lease work w).1 = .error halt := by
  have hacquired := (begun_of_affirms haffirms).1
  rcases ho : JobOutcome.of (.error halt : Except Halt α) with _ | o
  · cases JobOutcome.of_eq_none ho
    rw [exclusive_of_late hacquired hwork]
  · rw [exclusive_of_acquired hacquired hwork ho]
    rfl

theorem exclusive_of_end (haffirms : (tryAcquire job lease).affirms w = true) {report : α}
    (hwork : work (begun job lease w) = (.ok report, v)) :
    (exclusive job lease work w).1 = .ok (.completed report) ∨
      ∃ cause, (exclusive job lease work w).1 = .error (.failed cause) := by
  rw [exclusive_of_acquired (begun_of_affirms haffirms).1 hwork rfl, release_apply]
  split
  · exact .inl rfl
  · exact .inr ⟨_, rfl⟩

theorem exclusive_unending (work : Run L α) (hends : w.now.add? lease = none) :
    w.Unending job lease ((exclusive job lease work w).1.map JobRun.isCompleted)
      (exclusive job lease work w).2.store := by
  by_cases hheld : job ∈ w.worker.held
  · have hr : exclusive job lease work w = (.ok .alreadyRunning, w) :=
      exclusive_of_refused (tryAcquire_of_held hheld) nofun
    rw [hr]
    exact ⟨rfl, .inl ⟨rfl, hheld⟩, fun hnot => absurd hheld hnot⟩
  · have hperform : w.store.perform (.acquireLease job w.worker.id w.now lease) =
        .error (.outOfRange lease) := by
      change w.store.acquireLease job w.worker.id w.now lease = _
      unfold Store.acquireLease Store.leaseEnd
      rw [hends]
      rfl
    obtain ⟨_, _, -, hp⟩ | ⟨cause, w', hcall, hstore⟩ :=
      w.call_cases (.acquireLease job w.worker.id w.now lease)
    · cases hp.symm.trans hperform
    · have htry : tryAcquire job lease w = (.error (.failed (.store cause)), w') := by
        unfold tryAcquire
        rw [get_bind_apply, if_neg (by simpa using hheld), bind_apply, call_eq, hcall]
      have hr : exclusive job lease work w = (.error (.failed (.store cause)), w') :=
        exclusive_of_refused htry nofun
      rw [hr]
      refine ⟨hstore, .inr ⟨cause, rfl⟩, fun _ hfault => ?_⟩
      have hanswer := World.call_answer (c := .acquireLease job w.worker.id w.now lease) hfault
      rw [hcall, hperform] at hanswer
      cases hanswer
      rfl

/-- What is kept along all that is done about the lease of a job holds behind an exclusive run if
it holds behind its work, and an exclusive run halts as its work does, or fails. -/
theorem exclusive_outcomes {R : World L → World L → Prop} [IsPreorder (World L) R]
    {P : World L → Prop} {E : Halt → World L → Prop} (hlease : World.LeaseFrame job R)
    (hP : ∀ w w', R w w' → P w → P w') (hE : ∀ halt w w', R w w' → E halt w → E halt w')
    (hfails : ∀ cause w, P w → E (.failed cause) w) (hwork : Outcomes P work (fun _ => P) E) :
    Outcomes P (exclusive job lease work) (fun _ => P) E := by
  intro w hw
  rcases haffirms : (tryAcquire job lease).affirms w with _ | _
  · have hkept := hP _ _ (hlease.refused work haffirms) hw
    obtain ⟨-, -, -, -, hr | ⟨cause, hr⟩⟩ := exclusive_refused work haffirms <;>
      rcases hrun : exclusive job lease work w with ⟨r, v⟩ <;> rw [hrun] at hkept hr
    · cases hr
      exact hkept
    · cases hr
      exact hfails cause v hkept
  · have hends := hwork _ (hP _ _ (hlease.begun lease w) hw)
    have hbehind := hlease.behind work haffirms
    rcases hwork : work (begun job lease w) with ⟨halt | report, v⟩ <;>
      rw [hwork] at hends hbehind
    · have hr := exclusive_of_halt haffirms hwork
      rcases hrun : exclusive job lease work w with ⟨r, v'⟩
      rw [hrun] at hbehind hr
      cases hr
      exact hE halt v v' hbehind hends
    · have hkept := hP _ _ hbehind hends
      obtain hr | ⟨cause, hr⟩ := exclusive_of_end haffirms hwork <;>
        rcases hrun : exclusive job lease work w with ⟨r, v'⟩ <;> rw [hrun] at hkept hr
      · cases hr
        exact hkept
      · cases hr
        exact hfails cause v' hkept

end Run

namespace World

variable {L : Type} [LedgerService L] {w w' : World L}

omit [LedgerService L] in
theorem faults_call (hw : w.faults = {}) (k : StoreCall) : (w.call k).2.faults = {} := by
  have hnote : (w.note k).faults = w.faults := by
    unfold note
    split <;> rfl
  unfold call takeFault
  rw [hw, Table.get?_empty]
  dsimp only
  rcases (w.note k).store.perform k with cause | ⟨r, s⟩ <;> exact hnote.trans hw

/-- The count of histories is kept, the service comes to its state by requests, and no faults come
up. -/
structure Onward (w w' : World L) : Prop where
  tallies : Tallies w w'
  requests : Requests w w'
  faults : w.faults = {} → w'.faults = {}

instance : IsPreorder (World L) Onward where
  refl w := ⟨refl_of Tallies w, refl_of Requests w, id⟩
  trans _ _ _ h h' := ⟨trans_of Tallies h.tallies h'.tallies,
    trans_of Requests h.requests h'.requests, fun hw => h'.faults (h.faults hw)⟩

theorem Requests.of_eq (h : w'.ledger = w.ledger) : Requests w w' := by
  unfold Requests
  rw [h]
  exact refl_of LedgerService.Reacts w.ledger

theorem Onward.still (hdeadline : w'.deadline = w.deadline) (hstore : w'.store = w.store)
    (hwrites : w'.writes = w.writes) (hledger : w'.ledger = w.ledger)
    (hfaults : w'.faults = w.faults) : Onward w w' :=
  ⟨.still hdeadline hstore hwrites, .of_eq hledger, hfaults.trans⟩

theorem Onward.call (w : World L) {k : StoreCall} (hk : k.isCommit = false) :
    Onward w (w.call k).2 := ⟨.call w hk, .of_eq (w.call_frame k).1, fun hw => faults_call hw k⟩

theorem Onward.leaseFrame (job : String) :
    LeaseFrame job (Onward : World L → World L → Prop) where
  acquire w _ := call w rfl
  release w _ _ _ := call w rfl
  hold _ := still rfl rfl rfl rfl rfl
  drop _ := still rfl rfl rfl rfl rfl
  tend _ _ := still rfl rfl rfl rfl rfl
  rest _ := still rfl rfl rfl rfl rfl

theorem Requests.frame (writes : StoreCall → Bool) :
    World.Frame writes (Requests : World L → World L → Prop) where
  ask _ q := Relation.ReflTransGen.single ⟨q, rfl⟩
  read w k _ := .of_eq (w.call_frame k).1
  write w k _ := .of_eq (w.call_frame k).1
  advance w time := by
    obtain ⟨store, faults, writes, heartbeats, h⟩ := w.advance_changes time
    exact .of_eq (by rw [h])
  remember _ _ := .of_eq rfl

/-- The service may come to report so many delegators. -/
def MayReport (c : Settings) (w : World L) (k : Nat) : Prop :=
  ∃ v epoch found v', w.Requests v ∧ Run.observe c v = (.ok (epoch, found), v') ∧
    (Observation.latest (Observation.reports found)).length = k

end World

open World (Requests Onward)

/-- How a job halts that began in a world: in an orderly way, or it crashes since more addresses may
be reported than can be counted beside the histories that were committed. -/
structure Halt.Ends {L : Type} [LedgerService L] (c : Settings) (n : Nat) (start : World L)
    (halt : Halt) (w : World L) : Prop where
  within : w.Within start.deadline n 0
  cause : halt.Orderly start.deadline ∨
    halt = .crashed (some "attempt to add with overflow") ∧
      ∃ k, start.MayReport c k ∧ 2 ^ 64 ≤ n + w.commits + k

namespace Run

variable {L : Type} [LedgerService L] {c : Settings} {n : Nat} {start : World L}

/-- A world on the way of a job that began in a world. -/
def OnWay (n : Nat) (start w : World L) : Prop :=
  w.Within start.deadline n 0 ∧ start.Requests w

theorem OnWay.move {w w' : World L} (h : OnWay n start w) (hw : Onward w w') :
    OnWay n start w' := ⟨h.1.tallies hw.tallies, trans_of World.Requests h.2 hw.requests⟩

theorem OnWay.fails {w : World L} (h : OnWay n start w) (cause : SyncError) :
    Halt.Ends c n start (.failed cause) w := ⟨h.1, .inl (.failed cause)⟩

theorem ends_move {halt : Halt} {w w' : World L} (h : halt.Ends c n start w)
    (hw : Onward w w') : halt.Ends c n start w' := by
  refine ⟨h.within.tallies hw.tallies, h.cause.imp_right ?_⟩
  rintro ⟨hhalt, k, hreport, hmany⟩
  have hmore := hw.tallies.commits
  exact ⟨hhalt, k, hreport, by omega⟩

theorem syncEpochs_onWay : Outcomes (OnWay n start) (syncEpochs c : Run L _)
    (fun _ => OnWay n start)
    (fun halt w => OnWay n start w ∧ halt.Orderly start.deadline) := by
  intro w hw
  have hcounts := syncEpochs_counts c w hw.1
  have hrequests := trans_of World.Requests hw.2 ((World.Requests.frame _).syncEpochs c w)
  rcases hr : syncEpochs c w with ⟨halt | report, v⟩ <;> rw [hr] at hcounts hrequests
  · exact ⟨⟨hcounts.2, hrequests⟩, hcounts.1⟩
  · exact ⟨hcounts, hrequests⟩

theorem syncDelegations_onWay : Outcomes (OnWay n start) (syncDelegations c : Run L _)
    (fun _ => OnWay n start) (fun halt w => OnWay n start w ∧ halt.Ends c n start w) := by
  intro w hw
  have hcounts := syncDelegations_counts c hw.1
  have hrequests := trans_of World.Requests hw.2 ((World.Requests.frame _).syncDelegations c w)
  rcases hr : syncDelegations c w with ⟨halt | report, v⟩ <;> rw [hr] at hcounts hrequests
  · refine ⟨⟨hcounts.1, hrequests⟩, hcounts.1, hcounts.2.imp_right ?_⟩
    rintro ⟨hhalt, epoch, found, v', hobserved, hmany⟩
    exact ⟨hhalt, _, ⟨w, epoch, found, v', hw.2, hobserved, rfl⟩, hmany⟩
  · exact ⟨hcounts, hrequests⟩

theorem epochJob_onWay : Outcomes (OnWay n start) (epochJob c : Run L _)
    (fun _ => OnWay n start)
    (fun halt w => OnWay n start w ∧ halt.Orderly start.deadline) := by
  apply exclusive_outcomes (Onward.leaseFrame _)
  · exact fun _ _ hw h => h.move hw
  · exact fun _ _ _ hw h => ⟨h.1.move hw, h.2⟩
  · exact fun cause w h => ⟨h, .failed cause⟩
  · exact syncEpochs_onWay

theorem delegationJob_onWay : Outcomes (OnWay n start) (delegationJob c : Run L _)
    (fun _ => OnWay n start) (Halt.Ends c n start) := by
  apply exclusive_outcomes (Onward.leaseFrame _)
  · exact fun _ _ hw h => h.move hw
  · exact fun _ _ _ hw h => ends_move h hw
  · exact fun cause w h => h.fails cause
  · exact syncDelegations_onWay.mono (fun _ => id) (fun _ _ => id) fun _ _ h => h.2

theorem forgetting_onWay {α : Type} {x : Run L α} {Q : α → World L → Prop}
    {E : Halt → World L → Prop} (h : Outcomes (OnWay n start) x Q E) :
    Outcomes (OnWay n start) (forgetting x) Q E :=
  fun w hw => h { w with cache := {} } (hw.move (.still rfl rfl rfl rfl rfl))

theorem runFullSync_onWay {lease : Duration}
    (hlease : c.epochLease.add? c.delegationLease = some lease) :
    Outcomes (OnWay n start) (runFullSync c : Run L _) (fun _ => OnWay n start)
      (Halt.Ends c n start) := by
  unfold runFullSync
  rw [hlease]
  apply exclusive_outcomes (Onward.leaseFrame _)
  · exact fun _ _ hw h => h.move hw
  · exact fun _ _ _ hw h => ends_move h hw
  · exact fun cause w h => h.fails cause
  · apply forgetting_onWay
    apply Outcomes.bind (epochJob_onWay.mono (fun _ => id) (fun _ _ => id)
      fun _ _ h => ⟨h.1.1, .inl h.2⟩)
    intro epochs
    exact Outcomes.bind delegationJob_onWay fun delegations => Outcomes.pure fun _ => id

end Run

/-- The lease under which a job runs. That of a full sync covers both of its parts, if their leases
have a sum. -/
def Settings.lease? (c : Settings) : Job → Option Duration
  | .epochSync => some c.epochLease
  | .delegationSync => some c.delegationLease
  | .fullSync => c.epochLease.add? c.delegationLease

namespace Run

variable {L : Type} [LedgerService L] {c : Settings} {n : Nat} {w : World L} {job : Job}

def completes {α : Type} (x : Run L (JobRun α)) : Run L Bool := do return (← x).isCompleted

omit [LedgerService L] in
theorem completes_apply {α : Type} (x : Run L (JobRun α)) (w : World L) :
    completes x w = ((x w).1.map JobRun.isCompleted, (x w).2) := by
  unfold completes
  rw [bind_apply]
  rcases x w with ⟨_ | _, v⟩ <;> rfl

omit [LedgerService L] in
theorem Outcomes.completes {α : Type} {x : Run L (JobRun α)} {P Q : World L → Prop}
    {E : Halt → World L → Prop} (h : Outcomes P x (fun _ => Q) E) :
    Outcomes P (completes x) (fun _ => Q) E := bind h fun _ => pure fun _ => id

def runJob (c : Settings) : Job → Run L Bool
  | .epochSync => completes (runEpochSync c)
  | .delegationSync => completes (runDelegationSync c)
  | .fullSync => completes (runFullSync c)

theorem runJob_of_none (h : c.lease? job = none) :
    runJob c job w = (.error (.crashed (some "overflow when adding durations")), w) := by
  cases job with
  | epochSync => cases h
  | delegationSync => cases h
  | fullSync =>
    replace h : c.epochLease.add? c.delegationLease = none := h
    unfold runJob runFullSync
    rw [h]
    rfl

/-- A job with a lease ends, or halts as it may; a sync of epochs does not crash. -/
theorem runJob_onWay {start : World L} {lease : Duration} (h : c.lease? job = some lease) :
    Outcomes (OnWay n start) (runJob c job) (fun _ => OnWay n start)
      (fun halt w => halt.Ends c n start w ∧
        (job = .epochSync → halt.Orderly start.deadline)) := by
  cases job with
  | epochSync =>
    exact (forgetting_onWay epochJob_onWay).completes.mono (fun _ => id) (fun _ _ => id)
      fun _ _ h => ⟨⟨h.1.1, .inl h.2⟩, fun _ => h.2⟩
  | delegationSync =>
    exact (forgetting_onWay delegationJob_onWay).completes.mono (fun _ => id) (fun _ _ => id)
      fun _ _ h => ⟨h, nofun⟩
  | fullSync =>
    exact (runFullSync_onWay h).completes.mono (fun _ => id) (fun _ _ => id)
      fun _ _ h => ⟨h, nofun⟩

/-- A job whose lease has no end changes no row, and is told so by the store. -/
theorem runJob_unending {lease : Duration} (h : c.lease? job = some lease)
    (hends : w.now.add? lease = none) :
    w.Unending job.name lease (runJob c job w).1 (runJob c job w).2.store := by
  have hforgotten {r : Except Halt Bool} {s : Store}
      (hr : ({ w with cache := {} } : World L).Unending job.name lease r s) :
      w.Unending job.name lease r s :=
    ⟨hr.store, hr.refused, fun hheld hfault => hr.told hheld
      ((World.takeFault_congr (v := { w with cache := {} }) (w := w) rfl).trans hfault)⟩
  cases job with
  | epochSync =>
    cases h
    change w.Unending _ _ (completes _ w).1 (completes _ w).2.store
    rw [completes_apply]
    exact hforgotten (exclusive_unending (w := { w with cache := {} }) (syncEpochs c) hends)
  | delegationSync =>
    cases h
    change w.Unending _ _ (completes _ w).1 (completes _ w).2.store
    rw [completes_apply]
    exact hforgotten (exclusive_unending (w := { w with cache := {} }) (syncDelegations c) hends)
  | fullSync =>
    replace h : c.epochLease.add? c.delegationLease = some lease := h
    change w.Unending _ _ (completes _ w).1 (completes _ w).2.store
    unfold runFullSync
    rw [completes_apply, h]
    exact exclusive_unending _ hends

end Run

/-- A store of a worker and those before it, in which so many histories were committed: it is empty
at first, jobs are run with any settings and services, and calls that commit no history come in
between. -/
inductive Store.Ran : Nat → Store → Prop where
  | empty : Ran 0 {}
  | call {n : Nat} {s s' : Store} {k : StoreCall} {r : k.Result} (h : Ran n s)
      (hk : k.isCommit = false) (hp : s.perform k = .ok (r, s')) : Ran n s'
  | job {n : Nat} {L : Type} [LedgerService L] {w : World L} (h : Ran n w.store) (c : Settings)
      (job : Job) : Ran (n + (Run.runJob c job w).2.commits) (Run.runJob c job w).2.store

theorem Store.Ran.counted {n : Nat} {s : Store} (h : s.Ran n) : s.CountedBy n := by
  induction h with
  | empty => exact nofun
  | call h hk hp ih => exact ih.perform hk hp
  | @job n L _ w h c job ih =>
    have hw : w.Counted n := ih.mono (Nat.le_add_right n _)
    have hstart : Run.OnWay n w w :=
      ⟨⟨rfl, hw, Nat.zero_le _⟩, refl_of World.Requests w⟩
    rcases hlease : c.lease? job with _ | lease
    · rw [Run.runJob_of_none hlease]
      exact hw
    · have hends := Run.runJob_onWay hlease w hstart
      rcases hr : Run.runJob c job w with ⟨halt | done, v⟩ <;> rw [hr] at hends
      · exact hends.1.within.counted
      · exact hends.1.counted

theorem Duration.add?_ofSecs (a b : UInt64) :
    (ofSecs a).add? (ofSecs b) = none ↔ 2 ^ 64 ≤ (ofSecs a).secs + (ofSecs b).secs := by
  have hsecs (n : UInt64) : (ofSecs n).secs = n.toNat := by
    unfold secs
    rw [ofSecs_nanos]
    exact Nat.mul_div_cancel _ (by decide)
  rw [hsecs, hsecs]
  unfold add?
  rw [dite_eq_right_iff, ofSecs_nanos, ofSecs_nanos]
  dsimp only [maxNanos, nanosPerSecond]
  constructor
  · intro h
    by_contra hfew
    exact absurd (h (by omega)) nofun
  · intro hmany h
    omega

namespace Config

variable {lookup : String → Option String} {config : Config}

theorem exists_of_seconds {name : String} {a : UInt64} {d : Duration}
    (h : readOr lookup name (.ofSecs a) seconds = .ok d) : ∃ n, d = .ofSecs n := by
  unfold readOr at h
  split at h
  · cases h
    exact ⟨a, rfl⟩
  · next text _ =>
    unfold seconds at h
    rcases hword : word64 text with fault | n <;> rw [hword] at h
    · cases h
    · cases h
      exact ⟨_, rfl⟩

theorem leases_ofSecs (h : ofLookup lookup = .ok config) :
    (∃ n, config.settings.epochLease = .ofSecs n) ∧
      ∃ n, config.settings.delegationLease = .ofSecs n := by
  unfold ofLookup at h
  iterate 8 obtain ⟨_, -, h⟩ := exists_of_bind h
  obtain ⟨epochLease, hepoch, h⟩ := exists_of_bind h
  obtain ⟨delegationLease, hdelegation, h⟩ := exists_of_bind h
  iterate 10 obtain ⟨_, -, h⟩ := exists_of_bind h
  cases h
  exact ⟨exists_of_seconds hepoch, exists_of_seconds hdelegation⟩

/-- A job has a lease unless it is a full sync whose parts have leases of too many seconds. -/
theorem lease?_eq_none_iff (h : ofLookup lookup = .ok config) (job : Job) :
    config.settings.lease? job = none ↔ job = .fullSync ∧
      2 ^ 64 ≤ config.settings.epochLease.secs + config.settings.delegationLease.secs := by
  obtain ⟨⟨a, hepoch⟩, b, hdelegation⟩ := leases_ofSecs h
  cases job with
  | epochSync => exact iff_of_false nofun nofun
  | delegationSync => exact iff_of_false nofun nofun
  | fullSync =>
    change config.settings.epochLease.add? config.settings.delegationLease = none ↔ _
    rw [hepoch, hdelegation, Duration.add?_ofSecs]
    exact (and_iff_right rfl).symm

/-- With any configuration that can be read, in any store that runs come to, and whatever the
service answers, a full sync crashes at once if the leases of its parts have no sum. Any other run
of a job ends, fails or is cut short by the deadline, unless there are more addresses to count,
beside the histories that were committed, than a word of 64 bits holds. A lease that has no end is
refused by the store and leaves every row as it is. -/
theorem runJob_orderly {L : Type} [LedgerService L] (hconfig : ofLookup lookup = .ok config)
    {n : Nat} {w : World L} (hran : w.store.Ran n) (job : Job) :
    let c := config.settings
    let r := Run.runJob c job w
    (c.lease? job = none ↔
        job = .fullSync ∧ 2 ^ 64 ≤ c.epochLease.secs + c.delegationLease.secs) ∧
      (c.lease? job = none →
        r = (.error (.crashed (some "overflow when adding durations")), w)) ∧
      ∀ lease, c.lease? job = some lease →
        (∀ halt, r.1 = .error halt → (∃ cause, halt = .failed cause) ∨
          halt = .timeUp ∧ w.deadline.isSome ∨
          job ≠ .epochSync ∧ halt = .crashed (some "attempt to add with overflow") ∧
            ∃ k, w.MayReport c k ∧ 2 ^ 64 ≤ n + r.2.commits + k) ∧
        (w.now.add? lease = none → w.Unending job.name lease r.1 r.2.store) := by
  intro c r
  refine ⟨lease?_eq_none_iff hconfig job, Run.runJob_of_none, fun lease hlease =>
    ⟨fun halt hhalt => ?_, Run.runJob_unending hlease⟩⟩
  have hcounted : w.Counted n := hran.counted.mono (Nat.le_add_right n _)
  have hstart : Run.OnWay n w w := ⟨⟨rfl, hcounted, Nat.zero_le _⟩, refl_of World.Requests w⟩
  have hends := Run.runJob_onWay hlease w hstart
  obtain ⟨v, hr⟩ : ∃ v, Run.runJob c job w = (.error halt, v) := ⟨_, Prod.ext hhalt rfl⟩
  rw [hr] at hends
  rw [show r.2 = v from congrArg Prod.snd hr]
  obtain ⟨⟨-, horderly | ⟨hcrash, hmany⟩⟩, hepochs⟩ := hends
  · cases horderly with
    | failed cause => exact .inl ⟨cause, rfl⟩
    | late hlate => exact .inr (.inl ⟨rfl, hlate⟩)
  · refine .inr (.inr ⟨fun hjob => ?_, hcrash, hmany⟩)
    cases hcrash ▸ hepochs hjob

/-- The texts of a configuration whose syncs of epochs have the longest lease. -/
def longestLease (name : String) : Option String :=
  if name = "GOVSYNC_EPOCH_LEASE_SECS" then some "18446744073709551615" else none

/-- A sync of epochs with the longest lease is told that the lease is out of range. -/
theorem runJob_orderly_longest :
    ∃ config, ofLookup longestLease = .ok config ∧
      let w : World SimulatedLedger :=
        { ledger := {}, worker := ⟨⟨"a", by decide⟩, []⟩, now := ⟨0, 0⟩ }
      (Run.runJob config.settings .epochSync w).1 =
          .error (.failed (.store (.storage "lease out of range: 18446744073709551615s"))) ∧
        (Run.runJob config.settings .epochSync w).2.store = {} := by
  refine ⟨_, rfl, ?_⟩
  intro w
  have hread : ofLookup longestLease = .ok _ := rfl
  have hends : w.now.add? (.ofSecs 18446744073709551615) = none := by decide
  have hunending := ((runJob_orderly (w := w) hread .empty .epochSync).2.2
    (.ofSecs 18446744073709551615) rfl).2 hends
  exact ⟨hunending.told nofun rfl, hunending.store⟩

/-- With such a lease every full sync crashes, although the configuration can be read. -/
theorem fullSync_crashes :
    ∃ config, ofLookup longestLease = .ok config ∧ ∀ w : World SimulatedLedger,
      Run.runFullSync config.settings w =
        (.error (.crashed (some "overflow when adding durations")), w) :=
  ⟨_, rfl, fun _ => rfl⟩

end Config

end GovernanceIndex
