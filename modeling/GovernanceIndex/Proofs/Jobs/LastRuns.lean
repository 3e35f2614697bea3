import GovernanceIndex.Proofs.Jobs.FullSync
import GovernanceIndex.Proofs.Jobs.OrderlyRuns

/-!
What the rows of jobs tell of their last runs. A worker by itself, whose store takes every call, is
granted every lease that it asks for. So each run of a job does its work, and behind it the row of
the job shows how that ended. A full sync runs the syncs of epochs and of delegations under its own
lease, the second one only behind a report of the first, and each of the three leaves a row.
-/
namespace GovernanceIndex

open World (Elsewhere Onward Spares)

/-- How a sync halts that neither the store nor a deadline stops; it may crash if there are too many
addresses to count. -/
inductive Halt.Foreign (many : Prop) : Halt → Prop where
  | ledger (cause : LedgerError) : Foreign many (.failed (.ledger cause))
  | incomplete (epoch : Epoch) (step : EpochStep) (failed total : Nat) :
    Foreign many (.failed (.stepIncomplete epoch step failed total))
  | early (tip : Epoch) : Foreign many (.failed (.noCompletedEpoch tip))
  | overflow (h : many) : Foreign many (.crashed (some "attempt to add with overflow"))

theorem Halt.Foreign.mono {p q : Prop} {halt : Halt} (h : halt.Foreign p)
    (hpq : halt = .crashed (some "attempt to add with overflow") → p → q) : halt.Foreign q := by
  cases h with
  | ledger cause => exact .ledger cause
  | incomplete epoch step failed total => exact .incomplete epoch step failed total
  | early tip => exact .early tip
  | overflow hp => exact .overflow (hpq rfl hp)

namespace World

variable {L : Type} {w : World L}

/-- No call of the store meets a fault, and there is no deadline. -/
structure Unhindered (w : World L) : Prop where
  faults : w.faults = {}
  deadline : w.deadline = none

theorem Unhindered.faultless (h : w.Unhindered) : w.Faultless := faultless_of_empty h.faults

theorem Unhindered.call (h : w.Unhindered) (k : StoreCall) : (w.call k).2.Unhindered :=
  ⟨faults_call h.faults k, (Tallies.call_deadline w k).trans h.deadline⟩

end World

open World (Unhindered)

/-- What may happen where neither the store nor a deadline stops a sync. -/
def foreignRegime (L : Type) [LedgerService L] (many : Prop) : Regime L where
  permits _ := True
  answers _ _ := True
  holds := Unhindered
  halts := Halt.Foreign many
  ask w q _ hw := by
    refine ⟨⟨hw.faults, hw.deadline⟩, ?_⟩
    split
    · trivial
    · exact .ledger _
  read w k hk hw := ⟨hw.call k, fun _ hcause => (hw.faultless.reads hk hcause).elim⟩
  renew w job lease hw := hw.call _
  tick _ _ _ hw := ⟨hw.faults, hw.deadline⟩
  late w hw hlate := by
    rw [hw.deadline] at hlate
    cases hlate
  tip _ e _ _ := ⟨⟨e, none, none⟩, trivial, rfl⟩
  remember _ _ _ hw := ⟨hw.faults, hw.deadline⟩

namespace Run

variable {L : Type} [LedgerService L] {many : Prop} {c : Settings}

theorem foreignWrite {k : StoreCall} (hk : ∀ s : Store, (s.perform k).isOk) :
    (foreignRegime L many).Runs (call k : Run L k.Result) fun _ => True := by
  apply Regime.call
  intro w hw
  refine ⟨hw.call k, ?_⟩
  have hok := hw.faultless.succeeds (hk w.store)
  rcases hr : (w.call k).1 with cause | a <;> rw [hr] at hok
  · cases hok
  · trivial

theorem foreignEpochs (c : Settings) :
    (foreignRegime L False).Runs (syncEpochs c) fun _ => True := by
  apply Regime.syncEpochs trivial
  intro epoch step
  exact
    { own := fun _ _ _ _ _ => trivial
      inventory := fun _ _ _ _ _ _ _ _ _ => trivial
      write := fun _ => foreignWrite
      remember := fun _ _ hw => ⟨hw.faults, hw.deadline⟩
      incomplete := fun _ _ _ _ => .incomplete _ _ _ _ }

theorem foreignDelegations (c : Settings) :
    (foreignRegime L True).Runs (syncDelegations c) fun _ => True := by
  have hobserves : (foreignRegime L True).GrantsObserving :=
    ⟨trivial, fun _ => trivial, fun _ => trivial, fun _ _ => trivial, fun _ _ => trivial,
      fun _ _ _ hw => ⟨hw.faults, hw.deadline⟩, .early⟩
  have hwrite (k : StoreCall) (hk : k.isDelegationWrite) (s : Store) : (s.perform k).isOk := by
    cases k <;> first | rfl | cases hk
  exact Regime.syncDelegations hobserves
    ⟨fun _ => trivial, fun k hk => foreignWrite (hwrite k hk), .overflow trivial⟩ c

end Run

/-- A world on the way of a worker that neither the store nor a deadline hinders. -/
structure World.Unfailing {L : Type} [LedgerService L] (start w : World L) : Prop where
  onWay : Run.OnWay 0 start w
  unhindered : w.Unhindered

/-- How a run halts that began on the way of a worker: it crashes only if the service may report
more delegators than can be counted beside the histories that were committed. -/
def Halt.Foreseen {L : Type} [LedgerService L] (c : Settings) (start : World L) (halt : Halt)
    (w : World L) : Prop :=
  halt.Foreign (∃ k, start.MayReport c k ∧ 2 ^ 64 ≤ w.commits + k)

open World (Unfailing)

section

variable {L : Type} [LedgerService L] {c : Settings} {start w w' : World L}

theorem World.Unfailing.move (h : Unfailing start w) (hw : Onward w w') : Unfailing start w' :=
  ⟨h.onWay.move hw, hw.faults h.unhindered.faults,
    hw.tallies.deadline.trans h.unhindered.deadline⟩

theorem Halt.Foreseen.move {halt : Halt} (h : halt.Foreseen c start w) (hw : Onward w w') :
    halt.Foreseen c start w' := by
  refine h.mono ?_
  rintro - ⟨k, hreport, hmany⟩
  have hmore := hw.tallies.commits
  exact ⟨k, hreport, by omega⟩

end

namespace Run

variable {L : Type} [LedgerService L] {c : Settings} {start : World L}

/-- A sync stays on the way, and halts as is foreseen. -/
def Foresees {α : Type} (c : Settings) (start : World L) (work : Run L α) : Prop :=
  Outcomes (Unfailing start) work (fun _ => Unfailing start)
    fun halt w => Unfailing start w ∧ halt.Foreseen c start w

theorem syncEpochs_foresees : Foresees c start (syncEpochs c) := by
  intro w hw
  have honWay := syncEpochs_onWay (c := c) w hw.onWay
  have hforeign := (foreignEpochs c).outcomes w hw.unhindered
  rcases hr : syncEpochs c w with ⟨halt | report, v⟩ <;> rw [hr] at honWay hforeign
  · exact ⟨⟨honWay.1, hforeign.2⟩, hforeign.1.mono fun _ => False.elim⟩
  · exact ⟨honWay, hforeign.2⟩

theorem syncDelegations_foresees : Foresees c start (syncDelegations c) := by
  intro w hw
  have honWay := syncDelegations_onWay (c := c) w hw.onWay
  have hforeign := (foreignDelegations c).outcomes w hw.unhindered
  rcases hr : syncDelegations c w with ⟨halt | report, v⟩ <;> rw [hr] at honWay hforeign
  · obtain ⟨hway, -, hends⟩ := honWay
    refine ⟨⟨hway, hforeign.2⟩, hforeign.1.mono fun hcrash _ => ?_⟩
    obtain horderly | ⟨-, k, hreport, hmany⟩ := hends
    · rw [hcrash] at horderly
      cases horderly
    · exact ⟨k, hreport, Nat.zero_add v.commits ▸ hmany⟩
  · exact ⟨honWay, hforeign.2⟩

end Run

theorem Job.name_injective : Function.Injective Job.name := by
  intro job job' h
  cases job <;> cases job' <;> first | rfl | exact absurd h (by decide)

/-- A run of a job: what it came to with its report encoded, and what is recorded of it. -/
structure PastRun where
  job : Job
  result : Except Halt Json
  outcome : Option JobOutcome

def PastRun.of {α : Type} [JobReport α] (job : Job) (encode : α → Json) (r : Except Halt α) :
    PastRun := ⟨job, r.map encode, JobOutcome.of r⟩

/-- The last run of a job among runs of which the last one comes first. -/
def PastRun.last? (job : Job) (runs : List PastRun) : Option PastRun :=
  runs.find? fun run => run.job = job

theorem PastRun.last?_self {α : Type} [JobReport α] (job : Job) (encode : α → Json)
    (r : Except Halt α) (runs : List PastRun) :
    last? job (.of job encode r :: runs) = some (.of job encode r) :=
  List.find?_cons_of_pos (decide_eq_true rfl)

theorem PastRun.last?_other {α : Type} [JobReport α] {job job' : Job} (h : job ≠ job')
    (encode : α → Json) (r : Except Halt α) (runs : List PastRun) :
    last? job' (.of job encode r :: runs) = last? job' runs :=
  List.find?_cons_of_neg fun hsame => h (of_decide_eq_true hsame)

/-- The row of a job shows how its last run ended, and who ran it; without a run there is no row. -/
def Store.Shows (s : Store) (id : WorkerId) (job : Job) : Option PastRun → Prop
  | none => s.lastingRow job.name = none
  | some run => ∃ o ∈ run.outcome, ∃ row : JobLock, row.lockedBy = some id ∧
    s.lastingRow job.name = some (row.ended o)

namespace Store

variable {s s' : Store} {id : WorkerId} {job : Job} {run : Option PastRun}

theorem Shows.congr (h : s.Shows id job run)
    (hrow : s'.lastingRow job.name = s.lastingRow job.name) : s'.Shows id job run := by
  unfold Shows
  rw [hrow]
  exact h

theorem Shows.idle (h : s.Shows id job run) :
    ∀ row ∈ s.locks.get? job.name, row.isRunning = false := by
  intro row hrow
  have hlasting : s.lastingRow job.name = some row.lasting := congrArg _ (Option.mem_def.mp hrow)
  rcases run with _ | run
  · exact nomatch hlasting.symm.trans h
  · obtain ⟨o, -, row', -, hended⟩ := h
    exact congrArg JobLock.isRunning (Option.some.inj (hlasting.symm.trans hended))

end Store

namespace World

variable {L : Type} [LedgerService L] {start w : World L} {holder : Worker}
  {runs : List PastRun} {job : Job} {lease : Duration}

/-- A worker on its way. The rows of the jobs whose leases it does not hold show their last runs. -/
structure AtRest (w start : World L) (holder : Worker) (runs : List PastRun) : Prop where
  unfailing : Unfailing start w
  worker : w.worker = holder
  shows : ∀ job : Job, job.name ∉ holder.held →
    w.store.Shows holder.id job (PastRun.last? job runs)

theorem AtRest.affirms (h : w.AtRest start holder runs) (hjob : job.name ∉ holder.held)
    (hends : (w.now.add? lease).isSome) :
    (Run.tryAcquire job.name lease).affirms w = true := by
  apply Run.affirms_of_ok
  have hheld : job.name ∉ w.worker.held := h.worker ▸ hjob
  obtain ⟨ends, hends⟩ := Option.isSome_iff_exists.mp hends
  have hall : (w.store.locks.get? job.name).all
      (fun row => !row.isRunning || row.isExpired w.now) = true := by
    rw [Option.all_eq_true]
    intro row hrow
    rw [(h.shows job hjob).idle row hrow]
    rfl
  rw [Run.tryAcquire_answer h.unfailing.unhindered.faultless hheld, Run.acquireLease_answer, hall]
  unfold Store.leaseEnd
  rw [hends]
  rfl

theorem AtRest.begun (h : w.AtRest start holder runs)
    (haffirms : (Run.tryAcquire job.name lease).affirms w = true) :
    (Run.begun job.name lease w).AtRest start { holder with held := job.name :: holder.held }
      runs := by
  obtain ⟨-, -, hworker, -, row, hstore, -⟩ := Run.begun_of_affirms haffirms
  refine ⟨h.unfailing.move ((Onward.leaseFrame job.name).begun lease w), ?_, fun j hj => ?_⟩
  · rw [hworker, h.worker]
  · obtain ⟨hother, hheld⟩ := not_or.mp fun hmem => hj (List.mem_cons.mpr hmem)
    apply (h.shows j hheld).congr
    rw [hstore, Store.lastingRow_putLock, if_neg hother]

theorem AtRest.forgets (h : w.AtRest start holder runs) :
    ({ w with cache := {} } : World L).AtRest start holder runs :=
  ⟨h.unfailing.move (.still rfl rfl rfl rfl rfl), h.worker, h.shows⟩

end World

namespace Run

variable {L α : Type} [LedgerService L] {c : Settings} {start w : World L} {holder : Worker}
  {runs past : List PastRun} {job : Job} {lease : Duration} {work : Run L α} {jobs : List String}

/-- A result that is a report or a halt that is foreseen, and a worker at rest behind it. -/
structure Rests (c : Settings) (start : World L) (holder : Worker) (runs : List PastRun)
    (r : Except Halt α) (w : World L) : Prop where
  rest : w.AtRest start holder runs
  halts : ∀ halt, r = .error halt → halt.Foreseen c start w

/-- What work comes to in a world in which the lease of its job is taken for it. -/
def underLease (job : Job) (lease : Duration) (work : Run L α) (w : World L) : Except Halt α :=
  (work (begun job.name lease w)).1

/-- A run of a job came to what its work came to, which is its last run from then on. -/
structure Settled [JobReport α] (c : Settings) (start : World L) (holder : Worker)
    (past : List PastRun) (job : Job) (encode : α → Json) (r : Except Halt α)
    (m : Except Halt (JobRun α) × World L) : Prop where
  comes : m.1 = r.map .completed
  rests : Rests c start holder (.of job encode r :: past) r m.2

theorem Rests.outcome [JobReport α] {r : Except Halt α} (h : Rests c start holder runs r w) :
    ∃ o, JobOutcome.of r = some o := by
  rcases ho : JobOutcome.of r with _ | o
  · cases h.halts _ (JobOutcome.of_eq_none ho)
  · exact ⟨o, rfl⟩

theorem rests_sync (hspares : Shifts (Spares []) work) (hwork : Foresees c start work)
    (h : w.AtRest start holder runs) : Rests c start holder runs (work w).1 (work w).2 := by
  have hrows := hspares w
  have hends := hwork w h.unfailing
  have hshows (job : Job) (hjob : job.name ∉ holder.held) :=
    (h.shows job hjob).congr (hrows.rows job.name List.not_mem_nil)
  rcases hr : work w with ⟨halt | a, v⟩ <;> rw [hr] at hrows hends hshows
  · refine ⟨⟨hends.1, hrows.worker.trans h.worker, hshows⟩, ?_⟩
    rintro _ ⟨⟩
    exact hends.2
  · exact ⟨⟨hends, hrows.worker.trans h.worker, hshows⟩, nofun⟩

/-- A run of a job whose lease is free does its work and tells of it. -/
theorem settled_exclusive [JobReport α] (encode : α → Json) (hspares : Ends (Spares jobs) work)
    (hjobs : job.name ∉ jobs) (h : w.AtRest start holder runs) (hjob : job.name ∉ holder.held)
    (hends : (w.now.add? lease).isSome)
    (hwork : Rests c start { holder with held := job.name :: holder.held } past
      (underLease job lease work w) (work (begun job.name lease w)).2) :
    Settled c start holder past job encode (underLease job lease work w)
      (exclusive job.name lease work w) := by
  have haffirms := h.affirms hjob hends
  have hbehind := (Onward.leaseFrame (L := L) job.name).behind work haffirms
  obtain ⟨o, ho⟩ := hwork.outcome
  obtain ⟨hcomes, ⟨row, hholder, hrow⟩, hothers⟩ := exclusive_ends hspares haffirms
    h.unfailing.unhindered.faultless.releases hjobs ho
  have hlate : (exclusive job.name lease work w).1 ≠ .error .timeUp := by
    intro hlate
    rw [hcomes] at hlate
    rcases hr : (work (begun job.name lease w)).1 with halt | a <;> rw [hr] at hlate <;>
      cases hlate
    exact JobOutcome.ne_timeUp ho hr
  have hworker : (exclusive job.name lease work w).2.worker = w.worker :=
    exclusive_worker (fun w hends => (hspares w hends).worker) w hlate
  refine ⟨hcomes, ⟨hwork.rest.unfailing.move hbehind, hworker.trans h.worker, fun j hj => ?_⟩,
    fun halt hhalt => (hwork.halts halt hhalt).move hbehind⟩
  by_cases hsame : job = j
  · subst hsame
    rw [PastRun.last?_self]
    exact ⟨o, ho, row, h.worker ▸ hholder, hrow⟩
  · rw [PastRun.last?_other hsame]
    have hother : j.name ≠ job.name := fun hname => hsame (Job.name_injective hname).symm
    have hheld : j.name ∉ job.name :: holder.held := List.not_mem_cons_of_ne_of_not_mem hother hj
    exact (hwork.rest.shows j hheld).congr (hothers j.name hother)

theorem settled_sync [JobReport α] (encode : α → Json) (hspares : Shifts (Spares []) work)
    (hwork : Foresees c start work) (h : w.AtRest start holder runs)
    (hjob : job.name ∉ holder.held) (hends : (w.now.add? lease).isSome) :
    Settled c start holder runs job encode (underLease job lease work w)
      (exclusive job.name lease work w) :=
  settled_exclusive encode (fun w _ => hspares w) List.not_mem_nil h hjob hends
    (rests_sync hspares hwork (h.begun (h.affirms hjob hends)))

theorem settled_epochJob (h : w.AtRest start holder runs)
    (hjob : Job.epochSync.name ∉ holder.held) (hends : (w.now.add? c.epochLease).isSome) :
    Settled c start holder runs .epochSync EpochsReport.encode
      (underLease .epochSync c.epochLease (syncEpochs c) w) (epochJob c w) :=
  settled_sync EpochsReport.encode (Spares.syncEpochs [] c) syncEpochs_foresees h hjob hends

theorem settled_delegationJob (h : w.AtRest start holder runs)
    (hjob : Job.delegationSync.name ∉ holder.held)
    (hends : (w.now.add? c.delegationLease).isSome) :
    Settled c start holder runs .delegationSync DelegationsReport.encode
      (underLease .delegationSync c.delegationLease (syncDelegations c) w) (delegationJob c w) :=
  settled_sync DelegationsReport.encode (Spares.syncDelegations [] c) syncDelegations_foresees h
    hjob hends

/-- What both syncs come to within a full one, and their runs, the last one first. The sync of
delegations is run only behind a report on epochs. -/
def bothRuns (c : Settings) (w : World L) : Except Halt FullReport × List PastRun :=
  match underLease .epochSync c.epochLease (syncEpochs c) w with
  | .error halt => (.error halt, [.of .epochSync EpochsReport.encode (.error halt)])
  | .ok epochs =>
    let delegations :=
      underLease .delegationSync c.delegationLease (syncDelegations c) (epochJob c w).2
    (delegations.map fun x => ⟨.completed epochs, .completed x⟩,
      [.of .delegationSync DelegationsReport.encode delegations,
        .of .epochSync EpochsReport.encode (.ok epochs)])

/-- The runs that a job comes to under the lease of a full sync, the last one first. -/
def runsOf (c : Settings) (lease : Duration) (w : World L) : Job → List PastRun
  | .epochSync =>
    [.of .epochSync EpochsReport.encode
      (underLease .epochSync c.epochLease (syncEpochs c) { w with cache := {} })]
  | .delegationSync =>
    [.of .delegationSync DelegationsReport.encode
      (underLease .delegationSync c.delegationLease (syncDelegations c) { w with cache := {} })]
  | .fullSync =>
    let both := bothRuns c { begun Job.fullSync.name lease w with cache := {} }
    .of .fullSync FullReport.encode both.1 :: both.2

/-- Both syncs within a full one come to what their work comes to, and each of them leaves a run. -/
theorem rests_both (h : w.AtRest start holder past) (hepochs : Job.epochSync.name ∉ holder.held)
    (hdelegations : Job.delegationSync.name ∉ holder.held)
    (hends : (w.now.add? c.epochLease).isSome) (hends' : (w.now.add? c.delegationLease).isSome) :
    let both := bothRuns c { w with cache := {} }
    (Pipelines.standard.both c w).1 = both.1 ∧
      Rests c start holder (both.2 ++ past) both.1 (Pipelines.standard.both c w).2 := by
  let v : World L := { w with cache := {} }
  let u := (epochJob c v).2
  have hfirst := settled_epochJob (c := c) h.forgets hepochs hends
  have hnow : Elsewhere Job.delegationSync.name v u := Elsewhere.epochJob (by decide) c v
  have hsecond := settled_delegationJob (c := c) (w := u) hfirst.rests.rest hdelegations
    (hnow.now ▸ hends')
  unfold bothRuns
  rcases hr : underLease .epochSync c.epochLease (syncEpochs c) v with halt | report <;>
    rw [hr] at hfirst hsecond
  · have hrun : epochJob c (w.turned w.now) = (.error halt, u) := Prod.ext hfirst.comes rfl
    rw [both_of_error hrun]
    exact ⟨rfl, hfirst.rests.rest, fun _ hhalt => hfirst.rests.halts _ (by cases hhalt; rfl)⟩
  · have hrun : epochJob c (w.turned w.now) = (.ok (.completed report), u) :=
      Prod.ext hfirst.comes rfl
    have hresult := hsecond.comes
    have hrests := hsecond.rests
    rw [both_of_ok hrun, hresult]
    dsimp only
    rcases hd : underLease .delegationSync c.delegationLease (syncDelegations c) u
      with halt | report' <;> rw [hd] at hrests
    · exact ⟨rfl, hrests.rest, fun _ hhalt => hrests.halts _ (by cases hhalt; rfl)⟩
    · exact ⟨rfl, hrests.rest, nofun⟩

section

variable {id : WorkerId} (h : w.AtRest start ⟨id, []⟩ past)
  (hlease : c.epochLease.add? c.delegationLease = some lease)
  (hends : (w.now.add? lease).isSome)
include h hlease hends

theorem settled_runEpochSync :
    Settled c start ⟨id, []⟩ past .epochSync EpochsReport.encode
      (underLease .epochSync c.epochLease (syncEpochs c) { w with cache := {} })
      (runEpochSync c w) :=
  settled_epochJob h.forgets List.not_mem_nil (Timestamp.parts_end hlease hends).1

theorem settled_runDelegationSync :
    Settled c start ⟨id, []⟩ past .delegationSync DelegationsReport.encode
      (underLease .delegationSync c.delegationLease (syncDelegations c) { w with cache := {} })
      (runDelegationSync c w) :=
  settled_delegationJob h.forgets List.not_mem_nil (Timestamp.parts_end hlease hends).2

/-- A full sync leaves a run of its own behind those of its parts. -/
theorem settled_runFullSync :
    let both := bothRuns c { begun Job.fullSync.name lease w with cache := {} }
    Settled c start ⟨id, []⟩ (both.2 ++ past) .fullSync FullReport.encode both.1
      (runFullSync c w) := by
  intro both
  have haffirms : (tryAcquire Job.fullSync.name lease).affirms w = true :=
    h.affirms List.not_mem_nil hends
  have hnow : Elsewhere Job.epochSync.name w (begun Job.fullSync.name lease w) :=
    (Elsewhere.leaseFrame (by decide)).begun lease w
  obtain ⟨hend, hend'⟩ := Timestamp.parts_end hlease (hnow.now.symm ▸ hends)
  have hepochs : Job.epochSync.name ∉ [Job.fullSync.name] := by decide
  have hdelegations : Job.delegationSync.name ∉ [Job.fullSync.name] := by decide
  have hfull : Job.fullSync.name ∉ [Job.epochSync.name, Job.delegationSync.name] := by decide
  obtain ⟨hboth, hrests⟩ := rests_both (c := c) (h.begun haffirms) hepochs hdelegations
    hend hend'
  have hspares : Ends (Spares [Job.epochSync.name, Job.delegationSync.name])
      (Pipelines.standard.both c : Run L FullReport) := Pipelines.standard_undisturbed.both
  have hwork : underLease .fullSync lease (Pipelines.standard.both c) w = both.1 := hboth
  have hsettled := settled_exclusive FullReport.encode hspares hfull h List.not_mem_nil hends
    (hwork ▸ hrests)
  rw [hwork] at hsettled
  rw [← Pipelines.standard_runFullSync]
  unfold Pipelines.runFullSync
  rw [hlease]
  exact hsettled

end

end Run

end GovernanceIndex
