import GovernanceIndex.Proofs.Jobs.HeldLeases
import Mathlib.Data.Bool.Basic

/-!
Releases that come late. Who holds the lease of a job can be read off what the workers did and the
answers they got, and the row of the job shows that worker. A release leaves the row alone while
another worker holds the lease. Once that worker gave the lease up the row is idle, and a release
that is still to come writes its outcome over the one that was recorded.
-/
namespace GovernanceIndex

variable {ι L : Type}

namespace LeaseCall

variable {c : LeaseCall} {s s' s₁ : Store} {r r₁ : Bool}

theorem perform_unique (h : c.perform s = .ok (r, s')) (h₁ : c.perform s = .ok (r₁, s₁)) :
    r = r₁ ∧ s' = s₁ := by
  rw [h, Except.ok.injEq, Prod.mk.injEq] at h₁
  exact h₁

end LeaseCall

namespace LeaseAction

/-- A worker that asks for a lease is shown as its holder if it is answered with yes, or all stays
as it is. -/
theorem acquire_cases (job : String) (lease : Duration) (w : World L) :
    let m : Run L Bool := (acquire lease).run job
    (m.affirms w = false ∧ (m w).2.store = w.store) ∨
      (m.affirms w = true ∧ ∃ row, (m w).2.store = w.store.putLock job row ∧
        row.isRunning = true ∧ row.lockedBy = some w.worker.id) := by
  dsimp only [LeaseAction.run]
  unfold Run.affirms Run.tryAcquire
  rw [Run.get_bind_apply]
  split
  · exact .inl ⟨rfl, rfl⟩
  · rw [Run.bind_apply, Run.call_eq]
    rcases w.call_cases (.acquireLease job w.worker.id w.now lease) with
      ⟨r, w', hr, hp⟩ | ⟨cause, w', hr, hs⟩ <;> rw [hr]
    · change LeaseCall.perform w.store (.acquire job w.worker.id w.now lease) = _ at hp
      obtain ⟨-, row, -, -, hperform, hrunning, hholder, -⟩ | ⟨-, hrefused, hsame⟩ :=
        LeaseCall.acquire_cases w.store job w.worker.id w.now lease
      · obtain ⟨rfl, hstore⟩ := LeaseCall.perform_unique hp hperform
        exact .inr ⟨rfl, row, hstore, hrunning, hholder⟩
      · obtain rfl : r = false := (LeaseCall.granted_of_perform hp).symm.trans hrefused
        exact .inl ⟨rfl, (LeaseCall.run_of_perform hp).symm.trans hsame⟩
    · exact .inl ⟨rfl, hs⟩

theorem renew_cases (job : String) (lease : Duration) (w : World L) :
    let m : Run L Bool := (renew lease).run job
    (m w).2.store = w.store ∨
      ∃ row, (∃ p ∈ w.store.shown job, p.1 = some w.worker.id) ∧
        (m w).2.store = w.store.putLock job row ∧ row.isRunning = true ∧
        row.lockedBy = some w.worker.id := by
  dsimp only [LeaseAction.run]
  unfold Run.renew
  rw [Run.get_bind_apply, Run.call_eq]
  rcases w.call_cases (.renewLease job w.worker.id w.now lease) with
    ⟨r, w', hr, hp⟩ | ⟨cause, w', hr, hs⟩ <;> rw [hr]
  · change LeaseCall.perform w.store (.renew job w.worker.id w.now lease) = _ at hp
    obtain ⟨-, row, -, hheld, hperform, hrunning, hholder, -⟩ | ⟨-, -, hsame⟩ :=
      LeaseCall.renew_cases w.store job w.worker.id w.now lease
    · exact .inr ⟨row, hheld, (LeaseCall.perform_unique hp hperform).2, hrunning, hholder⟩
    · exact .inl ((LeaseCall.run_of_perform hp).symm.trans hsame)
  · exact .inl hs

/-- A release records how the run ended, unless a fault meets the call, the job has no row, or
another holder is shown. -/
theorem release_cases (job : String) (result : JobResult) (items : Option UInt64)
    (errorMessage : Option String) (w : World L) :
    let m : Run L Bool := (release result items errorMessage).run job
    (m.affirms w = false ∧ (m w).2.store = w.store ∧
        ((w.takeFault .releaseLease).1 = none → w.store.locks.get? job = none)) ∨
      (m.affirms w = true ∧ (m w).2.store = w.store ∧
        ∃ p ∈ w.store.shown job, p.1 ≠ some w.worker.id) ∨
      (m.affirms w = true ∧ (∀ p ∈ w.store.shown job, p.1 = some w.worker.id) ∧
        ∃ row ∈ w.store.locks.get? job, (m w).2.store = w.store.putLock job
          { row with
            isRunning := false, lastResult := some result, itemsProcessed := items,
            errorMessage }) := by
  let v : World L := { w with worker := { w.worker with held := w.worker.held.erase job } }
  have hchange : (Run.changeHeld fun held => held.erase job : Run L Unit) w = (.ok (), v) := rfl
  dsimp only [LeaseAction.run]
  unfold Run.affirms Run.release
  rw [Run.bind_apply, Run.bind_apply_of_ok hchange, Run.get_bind_apply, Run.bind_apply,
    Run.call_eq]
  rcases v.call_cases (.releaseLease job w.worker.id result items errorMessage) with
    ⟨r, w', hr, hp⟩ | ⟨cause, w', hr, hs⟩ <;> rw [hr]
  · right
    change LeaseCall.perform w.store (.release job w.worker.id result items errorMessage) = _ at hp
    obtain ⟨row, hrow, hlast, hperform⟩ | ⟨hnone | hother, -, hsame⟩ :=
      LeaseCall.release_cases w.store job w.worker.id result items errorMessage
    · exact .inr ⟨rfl, hlast, row, hrow, (LeaseCall.perform_unique hp hperform).2⟩
    · simp [LeaseCall.perform, Store.releaseLease, hnone] at hp
    · exact .inl ⟨rfl, (LeaseCall.run_of_perform hp).symm.trans hsame, hother⟩
  · refine .inl ⟨rfl, hs, fun hfault => ?_⟩
    have hanswer := World.call_answer (c := .releaseLease job w.worker.id result items errorMessage)
      ((World.takeFault_congr (v := v) (w := w) (m := .releaseLease) rfl).trans hfault)
    rw [hr] at hanswer
    change .error cause =
      (w.store.releaseLease job w.worker.id result items errorMessage).map Prod.fst at hanswer
    unfold Store.releaseLease at hanswer
    rcases hrow : w.store.locks.get? job with _ | row
    · rfl
    · simp only [hrow] at hanswer
      split at hanswer <;> cases hanswer

end LeaseAction

namespace Fleet

variable [DecidableEq ι] {id : ι → WorkerId} {f : Fleet ι} {job : String} {h : Option ι}

/-- The worker that holds the lease of a job, by one more event: it was granted the lease, and no
other worker was since, nor did it give the lease up. -/
def holderStep (job : String) (h : Option ι) (e : FleetEvent ι L × Bool) : Option ι :=
  if e.1.job = job ∧ e.2 then
    match e.1.action with
    | .acquire _ => some e.1.worker
    | .renew _ => h
    | .release .. => h.filter fun j => j ≠ e.1.worker
  else h

/-- The worker that holds the lease of a job behind answered events. -/
def holder (job : String) (es : List (FleetEvent ι L × Bool)) : Option ι :=
  es.foldl (holderStep job) none

/-- The row of a job shows a worker as its holder, or the job is not running. -/
def Shows (id : ι → WorkerId) (job : String) (h : Option ι) (s : Store) : Prop :=
  (s.shown job).map Prod.fst = h.map fun i => some (id i)

omit [DecidableEq ι] in
theorem Shows.putLock_other {s : Store} (hs : Shows id job h s) {j : String} (hj : j ≠ job)
    (row : JobLock) : Shows id job h (s.putLock j row) := by
  unfold Shows
  rw [Store.putLock_shown, if_neg (Ne.symm hj)]
  exact hs

omit [DecidableEq ι] in
theorem Shows.putLock_self {s : Store} {i : ι} {row : JobLock} (hrunning : row.isRunning = true)
    (hholder : row.lockedBy = some (id i)) : Shows id job (some i) (s.putLock job row) := by
  unfold Shows
  rw [Store.putLock_shown, if_pos rfl, if_pos hrunning, Option.map_some, hholder]
  rfl

omit [DecidableEq ι] in
theorem Shows.exists_holder {s : Store} (hs : Shows id job h s)
    {p : Option WorkerId × Option Timestamp} (hp : p ∈ s.shown job) :
    ∃ j, h = some j ∧ p.1 = some (id j) := by
  unfold Shows at hs
  rw [Option.mem_def.mp hp, Option.map_some] at hs
  obtain ⟨j, hj, hshown⟩ := Option.map_eq_some_iff.mp hs.symm
  exact ⟨j, hj, hshown.symm⟩

omit [DecidableEq ι] in
theorem Shows.holder_eq {s : Store} (hid : Function.Injective id) (hs : Shows id job h s)
    {p : Option WorkerId × Option Timestamp} (hp : p ∈ s.shown job) {i : ι} :
    p.1 = some (id i) ↔ h = some i := by
  obtain ⟨j, rfl, hshown⟩ := hs.exists_holder hp
  rw [hshown, Option.some.injEq, Option.some.injEq]
  exact hid.eq_iff

omit [DecidableEq ι] in
theorem Shows.shown_of_holder {s : Store} {i : ι} (hs : Shows id job (some i) s) :
    ∃ p ∈ s.shown job, p.1 = some (id i) :=
  Option.map_eq_some_iff.mp hs

/-- The row of a job goes on to show its holder whatever a worker does. -/
theorem Shows.step (hid : Function.Injective id) (hs : Shows id job h f.store)
    (e : FleetEvent ι L) :
    Shows id job (holderStep job h (e, f.affirms id e)) (f.step id e).store := by
  obtain ⟨i, j, action, w⟩ := e
  change Shows id job
    (holderStep job h (⟨i, j, action, w⟩, (action.run j).affirms (f.worldOf id i w)))
    (action.run j (f.worldOf id i w)).2.store
  have hstay (yes : Bool) (hyes : yes = false) :
      Shows id job (holderStep job h (⟨i, j, action, w⟩, yes)) f.store := by
    subst hyes
    simpa [holderStep] using hs
  have hother (hj : j ≠ job) (a : LeaseAction) (yes : Bool) :
      holderStep job h (⟨i, j, a, w⟩, yes) = h := if_neg fun hboth => hj hboth.1
  cases action with
  | acquire lease =>
    obtain ⟨haffirms, hstore⟩ | ⟨haffirms, row, hstore, hrunning, hholder⟩ :=
      LeaseAction.acquire_cases j lease (f.worldOf id i w)
    · rw [hstore]
      exact hstay _ haffirms
    · rw [haffirms, hstore]
      by_cases hj : j = job
      · subst hj
        have hgranted : holderStep j h (⟨i, j, .acquire lease, w⟩, true) = some i :=
          if_pos ⟨rfl, rfl⟩
        rw [hgranted]
        exact putLock_self hrunning hholder
      · rw [hother hj]
        exact hs.putLock_other hj row
  | renew lease =>
    have hsame (yes : Bool) : holderStep job h (⟨i, j, .renew lease, w⟩, yes) = h := ite_self h
    rw [hsame]
    obtain hstore | ⟨row, ⟨p, hp, hheld⟩, hstore, hrunning, hholder⟩ :=
      LeaseAction.renew_cases j lease (f.worldOf id i w)
    · rw [hstore]
      exact hs
    · rw [hstore]
      by_cases hj : j = job
      · subst hj
        rw [(hs.holder_eq hid hp).mp hheld]
        exact putLock_self hrunning hholder
      · exact hs.putLock_other hj row
  | release result items errorMessage =>
    have hgiven : holderStep j h (⟨i, j, .release result items errorMessage, w⟩, true) =
        h.filter fun x => x ≠ i := if_pos ⟨rfl, rfl⟩
    obtain ⟨haffirms, hstore, -⟩ | ⟨haffirms, hstore, p, hp, hheld⟩ |
      ⟨haffirms, hheld, row, -, hstore⟩ :=
      LeaseAction.release_cases j result items errorMessage (f.worldOf id i w)
    · rw [hstore]
      exact hstay _ haffirms
    · rw [haffirms, hstore]
      by_cases hj : j = job
      · subst hj
        -- Another worker is shown, and it is not the one that the release is by.
        have hne : h ≠ some i := (hs.holder_eq hid hp).not.mp hheld
        rw [hgiven]
        rcases h with _ | x
        · exact hs
        · have hkept : (some x).filter (fun y => y ≠ i) = some x := by
            simpa [Option.filter] using hne
          rw [hkept]
          exact hs
      · rw [hother hj]
        exact hs
    · rw [haffirms, hstore]
      by_cases hj : j = job
      · subst hj
        have hidle : (f.store.putLock j
            { row with
              isRunning := false, lastResult := some result, itemsProcessed := items,
              errorMessage }).shown j = none := by
          rw [Store.putLock_shown, if_pos rfl]
          rfl
        have hnone : h.filter (fun x => x ≠ i) = none := by
          rw [Option.filter_eq_none_iff]
          rintro x rfl
          obtain ⟨p, hp, -⟩ := hs.shown_of_holder
          simpa using (hs.holder_eq hid hp).mp (hheld p hp)
        rw [hgiven, hnone]
        exact congrArg (Option.map Prod.fst) hidle
      · rw [hother hj]
        exact hs.putLock_other hj _

/-- The row of a job shows the worker that holds the lease, behind anything that the workers did. -/
theorem runAll_shows (hid : Function.Injective id) (es : List (FleetEvent ι L)) (job : String) :
    Shows id job (holder job (answered id {} es)) (runAll id es).store := by
  have hfold (h : Option ι) (f : Fleet ι) (hs : Shows id job h f.store) :
      Shows id job ((answered id f es).foldl (holderStep job) h)
        (es.foldl (step id) f).store := by
    induction es generalizing h f with
    | nil => exact hs
    | cons e es ih => exact ih _ _ (hs.step hid e)
  exact hfold none {} rfl

/-- A release leaves all as it is while another worker holds the lease. Otherwise it writes its
outcome into the row, also over the outcome of a worker that took the lease over and gave it up. -/
theorem release_changes (hid : Function.Injective id) (es : List (FleetEvent ι L)) (i : ι)
    (job : String) (result : JobResult) (items : Option UInt64) (errorMessage : Option String)
    (w : World L) :
    let f := runAll id es
    let f' := f.step id ⟨i, job, .release result items errorMessage, w⟩
    (∀ j, holder job (answered id {} es) = some j → j ≠ i → f'.store = f.store) ∧
      ((∀ j, holder job (answered id {} es) = some j → j = i) →
        (w.takeFault .releaseLease).1 = none →
        ∀ row, f.store.locks.get? job = some row → f'.store = f.store.putLock job
          { row with
            isRunning := false, lastResult := some result, itemsProcessed := items,
            errorMessage }) := by
  intro f f'
  have hs : Shows id job (holder job (answered id {} es)) f.store := runAll_shows hid es job
  have hfault := World.takeFault_congr (v := f.worldOf id i w) (w := w)
    (m := .releaseLease) rfl
  obtain ⟨-, hstore, hrow⟩ | ⟨-, hstore, p, hp, hheld⟩ | ⟨-, hheld, row, hrow, hstore⟩ :=
    LeaseAction.release_cases job result items errorMessage (f.worldOf id i w)
  · refine ⟨fun _ _ _ => hstore, fun _ hnone row hsome => ?_⟩
    cases (hrow (hfault.trans hnone)).symm.trans hsome
  · refine ⟨fun _ _ _ => hstore, fun hlast => ?_⟩
    obtain ⟨j, hj, hshown⟩ := hs.exists_holder hp
    rw [hlast j hj] at hshown
    exact absurd hshown hheld
  · refine ⟨fun j hj hne => ?_, fun _ _ row' hsome => ?_⟩
    · rw [hj] at hs
      obtain ⟨p, hp, -⟩ := hs.shown_of_holder
      exact absurd (Option.some.inj ((hs.holder_eq hid hp).mp (hheld p hp))) hne
    · obtain rfl : row = row' := Option.some.inj (hrow.symm.trans hsome)
      exact hstore

/-- The world in which the minute of the first worker is over. -/
def minutePassed : World ScriptedLedger := { minuteAsked.world with now := ⟨61, 0⟩ }

/-- The second worker takes the lease over when the minute is over. -/
def minuteTaken : FleetEvent Bool ScriptedLedger :=
  ⟨true, "sync", .acquire (.ofSecs 60), minutePassed⟩

/-- The second worker holds the lease that it took over, and the first one's release changes
nothing. -/
theorem release_changes_nothing :
    let id : Bool → WorkerId := fun i => if i then ⟨"b", by decide⟩ else ⟨"a", by decide⟩
    let f := runAll id [minuteAsked, minuteTaken]
    Function.Injective id ∧ holder "sync" (answered id {} [minuteAsked, minuteTaken]) = some true ∧
      (f.step id ⟨false, "sync", .release .failed none none, minutePassed⟩).store = f.store := by
  intro id f
  have hid : Function.Injective id := Bool.injective_iff.mpr (by decide)
  have hholder : holder "sync" (answered id {} [minuteAsked, minuteTaken]) = some true := by
    decide +kernel
  obtain ⟨hspared, -⟩ := release_changes hid [minuteAsked, minuteTaken] false "sync" .failed none
    none minutePassed
  exact ⟨hid, hholder, hspared true hholder (by decide)⟩

/-- When the lease of the first worker is over, the second one takes it over and gives it up with
success. The first one's release then overwrites that outcome. -/
theorem release_overwrites_outcome :
    let id : Bool → WorkerId := fun i => if i then ⟨"b", by decide⟩ else ⟨"a", by decide⟩
    let f := runAll id [minuteAsked]
    let ended : FleetEvent Bool ScriptedLedger :=
      ⟨true, "sync", .release .success (some 5) none, minutePassed⟩
    let g := runAll id [minuteAsked, minuteTaken, ended]
    let late : FleetEvent Bool ScriptedLedger :=
      ⟨false, "sync", .release .failed none (some "late"), minutePassed⟩
    (∀ row ∈ f.store.locks.get? "sync", row.isExpired minutePassed.now) ∧
      f.affirms id minuteTaken ∧
      (g.store.locks.get? "sync").map (fun row => (row.lastResult, row.itemsProcessed)) =
        some (some .success, some 5) ∧
      ((g.step id late).store.locks.get? "sync").map
        (fun row => (row.lastResult, row.itemsProcessed)) = some (some .failed, none) := by
  decide +kernel

end Fleet

end GovernanceIndex
