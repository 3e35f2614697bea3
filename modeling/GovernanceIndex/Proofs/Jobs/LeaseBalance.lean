import GovernanceIndex.Jobs.Sync
import GovernanceIndex.Ledger.Scripted
import GovernanceIndex.Proofs.Jobs.ExclusiveRuns

/-!
Runs of the jobs balance their leases. However a run ends, the worker knows to hold the leases that
it held before. A run that is refused leaves no trace. The row of every job whose lease was taken
along the way, by the run itself or by a sync within a full one, says how that job ended.
-/
namespace GovernanceIndex

open World (Spares)

/-- The work of the jobs, which leaves it to their runs what leases the worker holds. -/
structure Pipelines (L : Type) [LedgerService L] where
  epochs : Settings → Run L EpochsReport
  delegations : Settings → Run L DelegationsReport
  epochs_worker : ∀ c, Run.Shifts World.SameWorker (epochs c)
  delegations_worker : ∀ c, Run.Shifts World.SameWorker (delegations c)

namespace Run

variable {L α : Type} [JobReport α] {job : String} {lease : Duration} {work : Run L α}

/-- However a run ends, the worker knows to hold the leases that it held before, and a run that
finds its job running changes no table and sends no request. -/
def Balances (m : Run L (JobRun α)) (w : World L) : Prop :=
  (m w).1 ≠ .error .timeUp → (m w).2.worker.held = w.worker.held ∧
    ((m w).1 = .ok .alreadyRunning → (m w).2.requests = w.requests ∧ (m w).2.store = w.store)

/-- The row of a job says what a run of it came to. -/
def Settles (job : String) (r : Except Halt (JobRun α)) (s : Store) : Prop :=
  ∃ a : Except Halt α, r = a.map .completed ∧ ∃ o ∈ JobOutcome.of a, s.Records job o

theorem Settles.congr {r : Except Halt (JobRun α)} {s s' : Store} (h : Settles job r s)
    (hrow : s'.lastingRow job = s.lastingRow job) : Settles job r s' := by
  obtain ⟨a, hr, o, ho, hrecords⟩ := h
  exact ⟨a, hr, o, ho, hrecords.congr hrow⟩

theorem exclusive_balances (hwork : Ends World.SameWorker work) (w : World L) :
    Balances (exclusive job lease work) w := by
  intro hends
  refine ⟨congrArg Worker.held (exclusive_worker hwork w hends), fun hrunning => ?_⟩
  rcases haffirms : (tryAcquire job lease).affirms w with _ | _
  · obtain ⟨hstore, -, hrequests, -⟩ := exclusive_refused work haffirms
    exact ⟨hrequests, hstore⟩
  · exact absurd hrunning (exclusive_completes haffirms)

omit [JobReport α] in
theorem Ends.forgetting {R : World L → World L → Prop} [IsPreorder (World L) R]
    (hforget : ∀ w : World L, R w { w with cache := {} }) (hwork : Ends R work) :
    Ends R (forgetting work) :=
  fun w hends => trans_of R (hforget w) (hwork _ hends)

end Run

namespace Pipelines

open Run

variable {L : Type} [LedgerService L] (p : Pipelines L) (c : Settings)

def standard : Pipelines L where
  epochs := syncEpochs
  delegations := syncDelegations
  epochs_worker c w := (Spares.syncEpochs [] c w).worker
  delegations_worker c w := (Spares.syncDelegations [] c w).worker

/-- While they work, no other worker takes a lease over. -/
structure Undisturbed : Prop where
  epochs : ∀ c, Shifts (Spares []) (p.epochs c)
  delegations : ∀ c, Shifts (Spares []) (p.delegations c)

theorem standard_undisturbed : (standard : Pipelines L).Undisturbed :=
  ⟨Spares.syncEpochs [], Spares.syncDelegations []⟩

def epochJob : Run L (JobRun EpochsReport) :=
  exclusive Job.epochSync.name c.epochLease (p.epochs c)

def delegationJob : Run L (JobRun DelegationsReport) :=
  exclusive Job.delegationSync.name c.delegationLease (p.delegations c)

def runEpochSync : Run L (JobRun EpochsReport) := forgetting (p.epochJob c)

def runDelegationSync : Run L (JobRun DelegationsReport) := forgetting (p.delegationJob c)

def both : Run L FullReport := forgetting do
  let epochs ← p.epochJob c
  let delegations ← p.delegationJob c
  return { epochs, delegations }

def runFullSync : Run L (JobRun FullReport) :=
  match c.epochLease.add? c.delegationLease with
  | none => crash "overflow when adding durations"
  | some lease => exclusive Job.fullSync.name lease (p.both c)

theorem standard_runEpochSync : (standard.runEpochSync c : Run L _) = Run.runEpochSync c := rfl

theorem standard_runDelegationSync :
    (standard.runDelegationSync c : Run L _) = Run.runDelegationSync c := rfl

theorem standard_runFullSync : (standard.runFullSync c : Run L _) = Run.runFullSync c := rfl

variable {p c} {w : World L}

theorem both_apply (p : Pipelines L) (c : Settings) (w : World L) :
    let epochs := p.epochJob c { w with cache := {} }
    let delegations := p.delegationJob c epochs.2
    p.both c w = (epochs.1.bind fun x => delegations.1.map fun y => ⟨x, y⟩,
      match epochs.1 with
      | .ok _ => delegations.2
      | .error _ => epochs.2) := by
  change ((p.epochJob c >>= _ : Run L FullReport) { w with cache := {} }) = _
  rw [bind_apply]
  rcases p.epochJob c { w with cache := {} } with ⟨halt | x, v⟩
  · rfl
  · dsimp only
    rw [bind_apply]
    rcases p.delegationJob c v with ⟨halt | y, v⟩ <;> rfl

theorem both_ends {R : World L → World L → Prop} [IsPreorder (World L) R]
    (hforget : ∀ w : World L, R w { w with cache := {} }) (hepochs : Ends R (p.epochJob c))
    (hdelegations : Ends R (p.delegationJob c)) : Ends R (p.both c) := by
  apply Ends.forgetting hforget
  apply Ends.bind hepochs
  intro epochs
  exact Ends.bind hdelegations fun delegations w _ => refl_of R w

theorem epochJob_worker : Ends World.SameWorker (p.epochJob c) :=
  exclusive_worker fun w _ => p.epochs_worker c w

theorem delegationJob_worker : Ends World.SameWorker (p.delegationJob c) :=
  exclusive_worker fun w _ => p.delegations_worker c w

theorem both_worker : Ends World.SameWorker (p.both c) :=
  both_ends (fun _ => rfl) epochJob_worker delegationJob_worker

section

variable (hp : p.Undisturbed)
include hp

theorem Undisturbed.epochJob : Ends (Spares [Job.epochSync.name]) (p.epochJob c) :=
  exclusive_spares fun w _ => hp.epochs c w

theorem Undisturbed.delegationJob : Ends (Spares [Job.delegationSync.name]) (p.delegationJob c) :=
  exclusive_spares fun w _ => hp.delegations c w

theorem Undisturbed.both :
    Ends (Spares [Job.epochSync.name, Job.delegationSync.name]) (p.both c) := by
  apply both_ends
  · exact fun w => ⟨rfl, fun _ _ => rfl, id⟩
  · exact fun w hends => (hp.epochJob w hends).mono (by simp)
  · exact fun w hends => (hp.delegationJob w hends).mono (by simp)

theorem Undisturbed.epochs_settle (hw : w.Releases)
    (h : (tryAcquire Job.epochSync.name c.epochLease).affirms w = true)
    (hends : (p.epochJob c w).1 ≠ .error .timeUp) :
    Settles Job.epochSync.name (p.epochJob c w).1 (p.epochJob c w).2.store := by
  obtain ⟨⟨o, ho, hr, hrecords⟩, -⟩ :=
    exclusive_records (fun w _ => hp.epochs c w) h hw List.not_mem_nil hends
  exact ⟨_, hr, o, ho, hrecords⟩

theorem Undisturbed.delegations_settle (hw : w.Releases)
    (h : (tryAcquire Job.delegationSync.name c.delegationLease).affirms w = true)
    (hends : (p.delegationJob c w).1 ≠ .error .timeUp) :
    Settles Job.delegationSync.name (p.delegationJob c w).1 (p.delegationJob c w).2.store := by
  obtain ⟨⟨o, ho, hr, hrecords⟩, -⟩ :=
    exclusive_records (fun w _ => hp.delegations c w) h hw List.not_mem_nil hends
  exact ⟨_, hr, o, ho, hrecords⟩

/-- Behind both syncs the rows of those that took their leases say what they came to. -/
theorem Undisturbed.both_settle (hw : w.Releases) (hends : (p.both c w).1 ≠ .error .timeUp) :
    let epochs := p.epochJob c { w with cache := {} }
    let delegations := p.delegationJob c epochs.2
    ((tryAcquire Job.epochSync.name c.epochLease).affirms { w with cache := {} } = true →
        Settles Job.epochSync.name epochs.1 (p.both c w).2.store) ∧
      ∀ x, epochs.1 = .ok x →
        (tryAcquire Job.delegationSync.name c.delegationLease).affirms epochs.2 = true →
        Settles Job.delegationSync.name delegations.1 (p.both c w).2.store := by
  intro epochs delegations
  have hboth : p.both c w = _ := both_apply p c w
  have hfirst : epochs.1 ≠ .error .timeUp := by
    intro hlate
    rw [hboth, hlate] at hends
    exact hends rfl
  have hsecond {x : JobRun EpochsReport} (hx : epochs.1 = .ok x) :
      delegations.1 ≠ .error .timeUp := by
    intro hlate
    rw [hboth, hx, hlate] at hends
    exact hends rfl
  have hspares : Spares [Job.epochSync.name] { w with cache := {} } epochs.2 :=
    hp.epochJob _ hfirst
  constructor
  · intro h
    apply (hp.epochs_settle (w := { w with cache := {} }) hw h hfirst).congr
    rw [hboth]
    rcases hx : epochs.1 with halt | x
    · rfl
    · exact (hp.delegationJob epochs.2 (hsecond hx)).rows _ (by decide)
  · intro x hx h
    have hsettles := hp.delegations_settle (hspares.releases hw) h (hsecond hx)
    rw [hboth, hx]
    exact hsettles

end

/-- Behind a full sync, whose work began in a world, the rows say what came of it and of the syncs
within it that took their leases. It succeeded just if neither of them failed or crashed. -/
structure FullSettles (p : Pipelines L) (c : Settings) (start : World L)
    (r : Except Halt (JobRun FullReport)) (s : Store) : Prop where
  epochs : (tryAcquire Job.epochSync.name c.epochLease).affirms start = true →
    Settles Job.epochSync.name (p.epochJob c start).1 s
  delegations : ∀ x v, p.epochJob c start = (.ok x, v) →
    (tryAcquire Job.delegationSync.name c.delegationLease).affirms v = true →
    Settles Job.delegationSync.name (p.delegationJob c v).1 s
  full : (∃ x y v v', p.epochJob c start = (.ok x, v) ∧ p.delegationJob c v = (.ok y, v') ∧
      r = .ok (.completed ⟨x, y⟩) ∧
      s.Records Job.fullSync.name ⟨.success, some (UInt64.ofNat (x.items + y.items)), none⟩) ∨
    ∃ halt, ((p.epochJob c start).1 = .error halt ∨
        ∃ x v, p.epochJob c start = (.ok x, v) ∧ (p.delegationJob c v).1 = .error halt) ∧
      r = .error halt ∧ ∃ o ∈ JobOutcome.of (.error halt : Except Halt FullReport),
        o.result = .failed ∧ s.Records Job.fullSync.name o

omit [LedgerService L] in
theorem affirms_forgetting (job : String) (lease : Duration) (w : World L) :
    (tryAcquire job lease).affirms { w with cache := {} } = (tryAcquire job lease).affirms w := by
  rw [(tryAcquire_held job lease w).1, (tryAcquire_held job lease { w with cache := {} }).1]
  unfold World.grants
  rw [World.takeFault_congr (v := { w with cache := {} }) (w := w) rfl]

theorem runFullSync_balances (p : Pipelines L) (c : Settings) (w : World L) :
    Balances (p.runFullSync c) w := by
  unfold runFullSync
  split
  · exact fun _ => ⟨rfl, nofun⟩
  · exact exclusive_balances both_worker w

theorem Undisturbed.full_settles (hp : p.Undisturbed) (hw : w.Releases) {lease : Duration}
    (hlease : c.epochLease.add? c.delegationLease = some lease)
    (h : (tryAcquire Job.fullSync.name lease).affirms w = true)
    (hends : (p.runFullSync c w).1 ≠ .error .timeUp) :
    p.FullSettles c { begun Job.fullSync.name lease w with cache := {} } (p.runFullSync c w).1
      (p.runFullSync c w).2.store := by
  have hrun : p.runFullSync c = exclusive Job.fullSync.name lease (p.both c) := by
    unfold runFullSync
    rw [hlease]
  rw [hrun] at hends ⊢
  obtain ⟨⟨o, ho, hr, hrecords⟩, hrows⟩ :=
    exclusive_records hp.both h hw (by decide) hends
  have hbegun : (begun Job.fullSync.name lease w).Releases := (begun_of_affirms h).2.2.2.1 hw
  have hboth := both_apply p c (begun Job.fullSync.name lease w)
  have hlate : (p.both c (begun Job.fullSync.name lease w)).1 ≠ .error .timeUp := by
    intro hlate
    rw [hlate] at ho
    cases ho
  obtain ⟨hepochs, hdelegations⟩ := hp.both_settle hbegun hlate
  dsimp only at hboth hepochs hdelegations
  refine ⟨fun hacquired => (hepochs hacquired).congr (hrows _ (by decide)),
    fun x v hx hacquired => ?_, ?_⟩
  · rw [hx] at hdelegations
    exact (hdelegations x rfl hacquired).congr (hrows _ (by decide))
  · rw [hboth] at ho hr
    rcases hx : p.epochJob c { begun Job.fullSync.name lease w with cache := {} } with
      ⟨halt | x, v⟩ <;> rw [hx] at ho hr
    · right
      refine ⟨halt, .inl rfl, hr, o, ho, ?_, hrecords⟩
      rcases halt with _ | _ | _ <;> cases ho <;> rfl
    · rcases hy : p.delegationJob c v with ⟨halt | y, v'⟩ <;> rw [hy] at ho hr
      · right
        refine ⟨halt, .inr ⟨x, v, rfl, ?_⟩, hr, o, ho, ?_, hrecords⟩
        · rw [hy]
        · rcases halt with _ | _ | _ <;> cases ho <;> rfl
      · left
        cases ho
        exact ⟨x, y, v, v', rfl, hy, hr, hrecords⟩

/-- However a run of a job ends, the worker knows to hold the leases that it held before, and a run
that finds its job running leaves no trace. If nothing but the worker itself touches the leases
meanwhile and releases meet no fault, then behind a run that took its lease the row of its job says
what it came to: success with the items of its report, or failure with the text of the error or of
the crash. Behind a full sync the rows of the syncs within it say the same. -/
theorem runs_balance (p : Pipelines L) (c : Settings) (w : World L) :
    (Balances (p.runEpochSync c) w ∧ Balances (p.runDelegationSync c) w ∧
        Balances (p.runFullSync c) w) ∧
      (p.Undisturbed → w.Releases →
        ((tryAcquire Job.epochSync.name c.epochLease).affirms w = true →
          (p.runEpochSync c w).1 ≠ .error .timeUp →
          Settles Job.epochSync.name (p.runEpochSync c w).1 (p.runEpochSync c w).2.store) ∧
        ((tryAcquire Job.delegationSync.name c.delegationLease).affirms w = true →
          (p.runDelegationSync c w).1 ≠ .error .timeUp →
          Settles Job.delegationSync.name (p.runDelegationSync c w).1
            (p.runDelegationSync c w).2.store) ∧
        ∀ lease, c.epochLease.add? c.delegationLease = some lease →
          (tryAcquire Job.fullSync.name lease).affirms w = true →
          (p.runFullSync c w).1 ≠ .error .timeUp →
          p.FullSettles c { begun Job.fullSync.name lease w with cache := {} }
            (p.runFullSync c w).1 (p.runFullSync c w).2.store) := by
  constructor
  · refine ⟨?_, ?_, runFullSync_balances p c w⟩
    · exact exclusive_balances (fun w _ => p.epochs_worker c w) { w with cache := {} }
    · exact exclusive_balances (fun w _ => p.delegations_worker c w) { w with cache := {} }
  · intro hp hw
    refine ⟨fun h hends => ?_, fun h hends => ?_, fun lease => hp.full_settles hw⟩
    · rw [← affirms_forgetting] at h
      exact hp.epochs_settle (w := { w with cache := {} }) hw h hends
    · rw [← affirms_forgetting] at h
      exact hp.delegations_settle (w := { w with cache := {} }) hw h hends

/-- A sync of delegations that crashes behind a proper sync of epochs. -/
def crashing : Pipelines ScriptedLedger :=
  { standard with
    delegations := fun _ => crash "boom"
    delegations_worker := fun _ _ => rfl }

theorem crashing_undisturbed : crashing.Undisturbed :=
  ⟨standard_undisturbed.epochs, fun _ w => refl_of (Spares []) w⟩

/-- A full sync whose second part crashes gives up all three leases, and its row tells of the
crash. -/
theorem runs_balance_crashing :
    let w : World ScriptedLedger :=
      { ledger := ⟨[]⟩, worker := { id := ⟨"a", by decide⟩ }, now := ⟨0, 0⟩ }
    let start := { begun Job.fullSync.name (.ofSecs 5400) w with cache := {} }
    (crashing.runFullSync {} w).1 = .error (.crashed (some "boom")) ∧
      (crashing.runFullSync {} w).2.worker.held = [] ∧
      (crashing.runFullSync {} w).2.store.Records Job.fullSync.name
        ⟨.failed, none, some "panic: boom"⟩ ∧
      crashing.FullSettles {} start (crashing.runFullSync {} w).1
        (crashing.runFullSync {} w).2.store := by
  intro w start
  have hlease : (Settings.epochLease {}).add? (Settings.delegationLease {}) =
      some (.ofSecs 5400) := by decide
  have haffirms : (tryAcquire Job.fullSync.name (.ofSecs 5400)).affirms w = true := by
    decide +kernel
  have hreleases : w.Releases := fun _ hfaults => nomatch hfaults
  have hresult : (crashing.runFullSync {} w).1 = .error (.crashed (some "boom")) := by
    decide +kernel
  have hends : (crashing.runFullSync {} w).1 ≠ .error .timeUp := by
    rw [hresult]
    exact nofun
  obtain ⟨⟨-, -, hfull⟩, hsettle⟩ := runs_balance crashing {} w
  have hsettles :=
    (hsettle crashing_undisturbed hreleases).2.2 (.ofSecs 5400) hlease haffirms hends
  refine ⟨hresult, (hfull hends).1, ?_, hsettles⟩
  rcases hsettles.full with ⟨x, y, v, v', -, -, hr, -⟩ | ⟨halt, -, hr, o, ho, -, hrecords⟩
  · exact nomatch hresult.symm.trans hr
  · obtain rfl := Except.error.inj (hresult.symm.trans hr)
    cases ho
    exact hrecords

end Pipelines

end GovernanceIndex
