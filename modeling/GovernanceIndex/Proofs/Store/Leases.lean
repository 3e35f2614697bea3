import GovernanceIndex.Store.Tables

/-!
Leases as the calls of the workers tell them. Who holds the lease of a job and when it ends can be
read off the calls and their answers alone, and the row of the job shows the same. A job is
therefore granted to nobody while a lease on it is live, and a live lease is its holder's to renew
and to give up.
-/
namespace GovernanceIndex

/-- The calls of a worker to the lease operations. -/
inductive LeaseCall where
  | acquire (job : String) (holder : WorkerId) (now : Timestamp) (lease : Duration)
  | renew (job : String) (holder : WorkerId) (now : Timestamp) (lease : Duration)
  | release (job : String) (holder : WorkerId) (result : JobResult) (items : Option UInt64)
      (errorMessage : Option String)

/-- What the row of a job shows while the job runs: its holder and the end of its lease. -/
def Store.shown (s : Store) (job : String) : Option (Option WorkerId × Option Timestamp) :=
  ((s.locks.get? job).filter fun row => row.isRunning).map fun row => (row.lockedBy, row.expiresAt)

def Store.putLock (s : Store) (job : String) (row : JobLock) : Store :=
  { s with locks := s.locks.insert job row }

theorem Store.putLock_shown (s : Store) (job : String) (row : JobLock) (j : String) :
    (s.putLock job row).shown j =
      if j = job then if row.isRunning then some (row.lockedBy, row.expiresAt) else none
      else s.shown j := by
  unfold shown putLock
  rw [Table.get?_insert]
  by_cases hj : j = job
  · rw [if_pos hj, if_pos hj]
    cases hrow : row.isRunning <;> simp [Option.filter, hrow]
  · rw [if_neg hj, if_neg hj]

theorem Store.shown_row (s : Store) (job : String) :
    s.shown job =
      let row := (s.locks.get? job).getD { job }
      if row.isRunning then some (row.lockedBy, row.expiresAt) else none := by
  unfold shown
  rcases s.locks.get? job with _ | row
  · rfl
  · cases hrow : row.isRunning <;> simp [Option.filter, hrow]

namespace LeaseCall

def perform (s : Store) : LeaseCall → Except StoreError (Bool × Store)
  | .acquire job holder now lease => s.acquireLease job holder now lease
  | .renew job holder now lease => s.renewLease job holder now lease
  | .release job holder result items errorMessage =>
    s.releaseLease job holder result items errorMessage

/-- Whether a call succeeds with the answer yes. -/
def granted (c : LeaseCall) (s : Store) : Bool :=
  match c.perform s with
  | .ok (answer, _) => answer
  | .error _ => false

def run (c : LeaseCall) (s : Store) : Store :=
  match c.perform s with
  | .ok (_, s') => s'
  | .error _ => s

def runAll (cs : List LeaseCall) (s : Store) : Store := cs.foldl (fun s c => c.run s) s

variable {s s' : Store} {c : LeaseCall} {answer : Bool}

theorem granted_of_perform (h : c.perform s = .ok (answer, s')) : c.granted s = answer := by
  unfold granted
  rw [h]

theorem run_of_perform (h : c.perform s = .ok (answer, s')) : c.run s = s' := by
  unfold run
  rw [h]

/-- A lease is granted with a representable end if no live one is shown, or all stays as it is. -/
theorem acquire_cases (s : Store) (job : String) (holder : WorkerId) (now : Timestamp)
    (lease : Duration) :
    (∃ ends row, now.add? lease = some ends ∧
        (∀ p ∈ s.shown job, p.2.any fun t => t.before now) ∧
        (acquire job holder now lease).perform s = .ok (true, s.putLock job row) ∧
        row.isRunning = true ∧ row.lockedBy = some holder ∧ row.expiresAt = some ends) ∨
      (¬ ((now.add? lease).isSome ∧ ∀ p ∈ s.shown job, p.2.any fun t => t.before now) ∧
        (acquire job holder now lease).granted s = false ∧
        (acquire job holder now lease).run s = s) := by
  rw [s.shown_row job]
  unfold granted run perform Store.acquireLease Store.leaseEnd
  rcases hends : now.add? lease with _ | ends
  · right
    simp [hends, bind, Except.bind]
  · simp only [hends, bind, Except.bind, pure, Except.pure, Store.putLock]
    generalize (s.locks.get? job).getD { job } = row
    rcases hrunning : row.isRunning with _ | _
    · left
      exact ⟨ends, _, rfl, by simp, by simp [JobLock.isExpired, hrunning]; rfl, rfl, rfl, rfl⟩
    · rcases hlive : row.expiresAt.any fun t => t.before now with _ | _
      · right
        simp [JobLock.isExpired, hrunning, hlive]
      · left
        exact ⟨ends, _, rfl, by simp [hlive], by simp [JobLock.isExpired, hrunning, hlive]; rfl,
          rfl, rfl, rfl⟩

theorem renew_cases (s : Store) (job : String) (holder : WorkerId) (now : Timestamp)
    (lease : Duration) :
    (∃ ends row, now.add? lease = some ends ∧ (∃ p ∈ s.shown job, p.1 = some holder) ∧
        (renew job holder now lease).perform s = .ok (true, s.putLock job row) ∧
        row.isRunning = true ∧ row.lockedBy = some holder ∧ row.expiresAt = some ends) ∨
      (¬ ((now.add? lease).isSome ∧ ∃ p ∈ s.shown job, p.1 = some holder) ∧
        (renew job holder now lease).granted s = false ∧
        (renew job holder now lease).run s = s) := by
  unfold Store.shown granted run perform Store.renewLease Store.leaseEnd
  rcases hends : now.add? lease with _ | ends
  · right
    simp [hends, bind, Except.bind]
  · rcases hrow : s.locks.get? job with _ | row
    · right
      simp [hends, hrow, bind, Except.bind, pure, Except.pure]
    · simp only [hends, hrow, bind, Except.bind, pure, Except.pure, Store.putLock]
      by_cases hheld : row.isHeldBy holder
      · have hshown := hheld
        simp only [JobLock.isHeldBy, Bool.and_eq_true, decide_eq_true_eq] at hshown
        obtain ⟨hrunning, hholder⟩ := hshown
        left
        exact ⟨ends, { row with expiresAt := some ends }, rfl,
          by simp [Option.filter, hrunning, hholder], by rw [if_pos hheld], hrunning, hholder, rfl⟩
      · have hshown := hheld
        simp only [JobLock.isHeldBy, Bool.and_eq_true, decide_eq_true_eq, not_and] at hshown
        right
        rw [if_neg hheld]
        rcases hrunning : row.isRunning with _ | _
        · simp [Option.filter, hrunning]
        · simp [Option.filter, hrunning, hshown hrunning]

theorem release_cases (s : Store) (job : String) (holder : WorkerId) (result : JobResult)
    (items : Option UInt64) (errorMessage : Option String) :
    (∃ row ∈ s.locks.get? job, (∀ p ∈ s.shown job, p.1 = some holder) ∧
        (release job holder result items errorMessage).perform s = .ok (true, s.putLock job
          { row with
            isRunning := false, lastResult := some result, itemsProcessed := items,
            errorMessage })) ∨
      ((s.locks.get? job = none ∨ ∃ p ∈ s.shown job, p.1 ≠ some holder) ∧
        (release job holder result items errorMessage).granted s = false ∧
        (release job holder result items errorMessage).run s = s) := by
  unfold Store.shown granted run perform Store.releaseLease
  rcases hrow : s.locks.get? job with _ | row
  · right
    simp [hrow]
  · simp only [hrow, Store.putLock]
    by_cases hother : row.isRunning && !row.isHeldBy holder
    · have hshown := hother
      simp only [JobLock.isHeldBy, Bool.and_eq_true, Bool.not_eq_true', Bool.and_eq_false_iff,
        decide_eq_false_iff_not] at hshown
      obtain ⟨hrunning, hholder⟩ := hshown
      right
      rw [if_pos hother]
      simpa [Option.filter, hrunning] using hholder
    · left
      refine ⟨row, rfl, ?_, by rw [if_neg hother]⟩
      rcases hrunning : row.isRunning with _ | _
      · simp [Option.filter, hrunning]
      · simpa [Option.filter, JobLock.isHeldBy, hrunning] using hother

def job : LeaseCall → String
  | .acquire job _ _ _ | .renew job _ _ _ | .release job _ _ _ _ => job

def holder : LeaseCall → WorkerId
  | .acquire _ holder _ _ | .renew _ holder _ _ | .release _ holder _ _ _ => holder

/-- Whether a call asks for a lease. -/
def asks : LeaseCall → Bool
  | .acquire .. => true
  | _ => false

/-- Calls made one after the other, each with whether it was granted. -/
def answered : Store → List LeaseCall → List (LeaseCall × Bool)
  | _, [] => []
  | s, c :: cs => (c, c.granted s) :: answered (c.run s) cs

end LeaseCall

open LeaseCall

/-- A lease that was granted and not given up since. -/
structure Lease where
  holder : WorkerId
  ends : Timestamp
  deriving DecidableEq, Repr

namespace Lease

/-- What the row of a job shows while it has a lease. -/
def shown (l : Lease) : Option WorkerId × Option Timestamp := (some l.holder, some l.ends)

/-- The lease of a job behind a further call: a granted acquisition starts it, a granted renewal by
its holder moves its end, and a granted release by its holder ends it. -/
def step (job : String) (l : Option Lease) (e : LeaseCall × Bool) : Option Lease :=
  if e.1.job = job ∧ e.2 then
    match e.1 with
    | .acquire _ holder now lease => (now.add? lease).map fun ends => { holder, ends }
    | .renew _ holder now lease => l.map fun x =>
      if x.holder = holder then { x with ends := (now.add? lease).getD x.ends } else x
    | .release _ holder _ _ _ => l.filter fun x => x.holder ≠ holder
  else l

/-- The lease of a job behind calls, as they and their answers tell it. -/
def current (job : String) (es : List (LeaseCall × Bool)) : Option Lease :=
  es.foldl (step job) none

variable {s : Store} {job : String} {l : Option Lease}

/-- A call keeps what the row of a job shows in step with the lease that the calls tell. -/
theorem step_shown (h : s.shown job = l.map shown) (c : LeaseCall) :
    (c.run s).shown job = (step job l (c, c.granted s)).map shown := by
  -- A call that is refused, or that is about another job, changes neither side.
  have hrefused (hgranted : c.granted s = false) (hrun : c.run s = s) :
      (c.run s).shown job = (step job l (c, c.granted s)).map shown := by
    rw [hgranted, hrun, h]
    simp [step]
  have hother {row : JobLock} (hperform : c.perform s = .ok (true, s.putLock c.job row))
      (hjob : c.job ≠ job) : (c.run s).shown job = (step job l (c, c.granted s)).map shown := by
    rw [run_of_perform hperform, Store.putLock_shown, if_neg (Ne.symm hjob), h]
    simp [step, hjob]
  cases c with
  | acquire j holder now lease =>
    obtain ⟨ends, row, hends, -, hperform, hrow⟩ | ⟨-, hgranted, hrun⟩ :=
      acquire_cases s j holder now lease
    · by_cases hj : j = job
      · subst hj
        obtain ⟨hrunning, hholder, hexpires⟩ := hrow
        rw [run_of_perform hperform, granted_of_perform hperform, Store.putLock_shown]
        simp [step, LeaseCall.job, shown, hends, hrunning, hholder, hexpires]
      · exact hother hperform hj
    · exact hrefused hgranted hrun
  | renew j holder now lease =>
    obtain ⟨ends, row, hends, hheld, hperform, hrow⟩ | ⟨-, hgranted, hrun⟩ :=
      renew_cases s j holder now lease
    · by_cases hj : j = job
      · subst hj
        obtain ⟨hrunning, hholder, hexpires⟩ := hrow
        obtain ⟨p, hp, hpholder⟩ := hheld
        rw [h] at hp
        obtain ⟨x, rfl, rfl⟩ := Option.map_eq_some_iff.mp hp
        have hx : x.holder = holder := Option.some.inj hpholder
        rw [run_of_perform hperform, granted_of_perform hperform, Store.putLock_shown]
        simp [step, LeaseCall.job, shown, hends, hrunning, hholder, hexpires, hx]
      · exact hother hperform hj
    · exact hrefused hgranted hrun
  | release j holder result items errorMessage =>
    obtain ⟨row, -, hheld, hperform⟩ | ⟨-, hgranted, hrun⟩ :=
      release_cases s j holder result items errorMessage
    · by_cases hj : j = job
      · subst hj
        have hlast : ∀ x ∈ l, x.holder = holder := by
          simpa [h, shown] using hheld
        rw [run_of_perform hperform, granted_of_perform hperform, Store.putLock_shown]
        rcases l with _ | x
        · simp [step, LeaseCall.job]
        · simp [step, LeaseCall.job, Option.filter, hlast x rfl]
      · exact hother hperform hj
    · exact hrefused hgranted hrun

/-- The row of a job shows the lease that the calls tell, behind any calls. -/
theorem foldl_step_shown (cs : List LeaseCall) (h : s.shown job = l.map shown) :
    (runAll cs s).shown job = ((answered s cs).foldl (step job) l).map shown := by
  induction cs generalizing s l with
  | nil => exact h
  | cons c cs ih => exact ih (step_shown h c)

theorem runAll_shown (cs : List LeaseCall) (job : String) :
    (runAll cs {}).shown job = (current job (answered {} cs)).map shown :=
  foldl_step_shown cs rfl

/-- Whether a call comes while a worker keeps the lease of a job: the worker does not give the lease
up by it, and if it asks for the lease, the end is not passed. -/
def spared (job : String) (x : WorkerId) (l : Option Lease) : LeaseCall → Bool
  | .acquire j _ now _ => decide (j ≠ job) || l.all fun y => !y.ends.before now
  | .renew _ _ _ _ => true
  | .release j holder _ _ _ => decide (j ≠ job) || decide (holder ≠ x)

/-- Whether a worker keeps the lease of a job along answered calls, by which it may be renewed. -/
def kept (job : String) (x : WorkerId) : Option Lease → List (LeaseCall × Bool) → Bool
  | _, [] => true
  | l, e :: es => spared job x l e.1 && kept job x (step job l e) es

variable {x : Lease} {c : LeaseCall} {es : List (LeaseCall × Bool)}

theorem refused_of_spared (h : s.shown job = some x.shown)
    (hspared : spared job x.holder (some x) c) (hjob : c.job = job)
    (hc : c.asks ∨ c.holder ≠ x.holder) : c.granted s = false ∧ c.run s = s := by
  subst hjob
  cases c with
  | acquire j holder now lease =>
    obtain ⟨-, -, -, hpassed, -⟩ | ⟨-, hrefused⟩ := acquire_cases s j holder now lease
    · have hbefore : x.ends.before now = true := by
        simpa [shown] using hpassed _ h
      have hlive : x.ends.before now = false := by simpa [spared, LeaseCall.job] using hspared
      rw [hbefore] at hlive
      cases hlive
    · exact hrefused
  | renew j holder now lease =>
    have hne : holder ≠ x.holder := by simpa [asks, LeaseCall.holder] using hc
    obtain ⟨-, -, -, ⟨p, hp, hheld⟩, -⟩ | ⟨-, hrefused⟩ := renew_cases s j holder now lease
    · obtain rfl : x.shown = p := Option.some.inj (h.symm.trans hp)
      exact absurd (Option.some.inj hheld).symm hne
    · exact hrefused
  | release j holder result items errorMessage =>
    have hne : holder ≠ x.holder := by simpa [asks, LeaseCall.holder] using hc
    obtain ⟨-, -, hheld, -⟩ | ⟨-, hrefused⟩ := release_cases s j holder result items errorMessage
    · exact absurd (Option.some.inj (hheld _ h)).symm hne
    · exact hrefused

theorem step_of_spared (h : s.shown job = some x.shown)
    (hspared : spared job x.holder (some x) c) :
    ∃ y, step job (some x) (c, c.granted s) = some y ∧ y.holder = x.holder := by
  by_cases hgranted : c.job = job ∧ c.granted s
  · unfold step
    rw [if_pos hgranted]
    cases c with
    | acquire j holder now lease =>
      have hrefused := refused_of_spared h hspared hgranted.1 (.inl rfl)
      rw [hrefused.1] at hgranted
      exact absurd hgranted.2 Bool.false_ne_true
    | renew j holder now lease =>
      refine ⟨_, rfl, ?_⟩
      dsimp only
      split <;> rfl
    | release j holder result items errorMessage =>
      obtain rfl : j = job := hgranted.1
      have hne : holder ≠ x.holder := by simpa [spared] using hspared
      exact ⟨x, by simp [Option.filter, Ne.symm hne], rfl⟩
  · exact ⟨x, if_neg hgranted, rfl⟩

theorem kept_append {l : Option Lease} {x : WorkerId} (fs : List (LeaseCall × Bool)) :
    kept job x l (es ++ fs) = (kept job x l es && kept job x (es.foldl (step job) l) fs) := by
  induction es generalizing l with
  | nil => rfl
  | cons e es ih => simp only [List.cons_append, kept, List.foldl_cons, ih, Bool.and_assoc]

theorem foldl_step_of_kept (cs : List LeaseCall) (h : s.shown job = some x.shown)
    (hkept : kept job x.holder (some x) (answered s cs)) :
    ∃ y, (answered s cs).foldl (step job) (some x) = some y ∧ y.holder = x.holder := by
  induction cs generalizing s x with
  | nil => exact ⟨x, rfl, rfl⟩
  | cons c cs ih =>
    rw [answered, kept, Bool.and_eq_true] at hkept
    obtain ⟨hspared, hkept⟩ := hkept
    -- A renewal may move the end, so the induction goes on with another lease of the same holder.
    obtain ⟨y, hy, hholder⟩ := step_of_spared h hspared
    have hshown := step_shown (l := some x) h c
    rw [hy] at hshown hkept
    rw [← hholder] at hkept
    obtain ⟨z, hz, hz'⟩ := ih hshown hkept
    refine ⟨z, ?_, hz'.trans hholder⟩
    rw [answered, List.foldl_cons, hy]
    exact hz

end Lease

namespace LeaseCall

theorem answered_append (s : Store) (cs ds : List LeaseCall) :
    answered s (cs ++ ds) = answered s cs ++ answered (runAll cs s) ds := by
  induction cs generalizing s with
  | nil => rfl
  | cons c cs ih => exact congrArg _ (ih (c.run s))

theorem current_append (cs : List LeaseCall) (c : LeaseCall) (job : String) :
    Lease.current job (answered {} (cs ++ [c])) =
      Lease.step job (Lease.current job (answered {} cs)) (c, c.granted (runAll cs {})) := by
  rw [answered_append, Lease.current, List.foldl_append]
  rfl

variable {s : Store} {job : String} {x : WorkerId} {now : Timestamp} {lease : Duration}

/-- A lease is granted exactly if its end is representable and the one before it is passed. -/
theorem granted_iff {l : Option Lease} (h : s.shown job = l.map Lease.shown) :
    (acquire job x now lease).granted s ↔
      (now.add? lease).isSome ∧ ∀ y ∈ l, y.ends.before now := by
  have hpassed : (∀ p ∈ s.shown job, p.2.any fun t => t.before now) ↔
      ∀ y ∈ l, y.ends.before now := by
    rw [h]
    simp [Lease.shown]
  rcases acquire_cases s job x now lease with
    ⟨ends, row, hends, hall, hperform, -⟩ | ⟨hlive, hrefused, -⟩
  · rw [granted_of_perform hperform, hends]
    exact iff_of_true rfl ⟨rfl, hpassed.mp hall⟩
  · rw [hpassed] at hlive
    rw [hrefused]
    exact iff_of_false Bool.false_ne_true hlive

theorem step_of_granted (h : (acquire job x now lease).granted s) (l : Option Lease) :
    ∃ y, Lease.step job l (acquire job x now lease, (acquire job x now lease).granted s) = some y ∧
      y.holder = x := by
  rcases acquire_cases s job x now lease with ⟨ends, -, hends, -⟩ | ⟨-, hrefused, -⟩
  · exact ⟨{ holder := x, ends }, by simp [Lease.step, LeaseCall.job, h, hends], rfl⟩
  · exact absurd (hrefused.symm.trans h) Bool.false_ne_true

def holderOf (s : Store) (job : String) : Option WorkerId := (s.shown job).bind Prod.fst

theorem holderOf_of_shown {y : Lease} (h : s.shown job = some y.shown) :
    holderOf s job = some y.holder := by
  unfold holderOf
  rw [h]
  rfl

theorem kept_throughout {y : Lease} (h : s.shown job = some y.shown) (during : List LeaseCall)
    (c : LeaseCall)
    (hkept : Lease.kept job y.holder (some y) (answered s (during ++ [c]))) :
    let s' := runAll during s
    holderOf s' job = some y.holder ∧ holderOf (c.run s') job = some y.holder ∧
      (c.job = job → c.asks ∨ c.holder ≠ y.holder → c.granted s' = false ∧ c.run s' = s') := by
  intro s'
  rw [answered_append, Lease.kept_append, Bool.and_eq_true] at hkept
  obtain ⟨hduring, hnext⟩ := hkept
  obtain ⟨z, hz, hholder⟩ := Lease.foldl_step_of_kept during h hduring
  have hs' : s'.shown job = some z.shown := by
    rw [Lease.foldl_step_shown during (l := some y) h, hz]
    rfl
  rw [hz, ← hholder, answered, Lease.kept, Bool.and_eq_true] at hnext
  obtain ⟨w, hw, hw'⟩ := Lease.step_of_spared hs' hnext.1
  have hrun : (c.run s').shown job = some w.shown := by
    rw [Lease.step_shown (l := some z) hs' c, hw]
    rfl
  rw [← hholder]
  exact ⟨holderOf_of_shown hs', hw' ▸ holderOf_of_shown hrun,
    Lease.refused_of_spared hs' hnext.1⟩

/-- A lease is granted exactly when none is live, that is, when the lease that the calls tell, if
any, ended strictly before. From then on the holder keeps it, whoever else asks for it, renews it or
gives it up, until the holder gives it up or its end is passed. -/
theorem acquire_exclusive (cs : List LeaseCall) (job : String) (x : WorkerId) (now : Timestamp)
    (lease : Duration) :
    let s := runAll cs {}
    let a := acquire job x now lease
    (a.granted s ↔
      (now.add? lease).isSome ∧ ∀ l ∈ Lease.current job (answered {} cs), l.ends.before now) ∧
    (a.granted s →
      ∀ during c,
        Lease.kept job x (Lease.current job (answered {} (cs ++ [a])))
          (answered (a.run s) (during ++ [c])) →
        let s' := runAll during (a.run s)
        holderOf s' job = some x ∧ holderOf (c.run s') job = some x ∧
          (c.job = job → c.asks ∨ c.holder ≠ x → c.granted s' = false ∧ c.run s' = s')) := by
  intro s a
  have hshown : s.shown job = (Lease.current job (answered {} cs)).map Lease.shown :=
    Lease.runAll_shown cs job
  constructor
  · exact granted_iff hshown
  · intro hgranted during c hkept
    obtain ⟨y, hy, rfl⟩ := step_of_granted hgranted (Lease.current job (answered {} cs))
    rw [current_append, hy] at hkept
    apply kept_throughout _ during c hkept
    rw [Lease.step_shown hshown a, hy]
    rfl

/-- A lease of a minute that was renewed after fifty seconds is kept in the second in which it ends,
after another worker asked for it and tried to give it up. -/
theorem acquire_exclusive_renewed :
    let x : WorkerId := ⟨"a", by decide⟩
    let y : WorkerId := ⟨"b", by decide⟩
    let minute := Duration.ofSecs 60
    let a := acquire "sync" x ⟨0, 0⟩ minute
    let during := [acquire "sync" y ⟨30, 0⟩ minute, renew "sync" x ⟨50, 0⟩ minute,
      release "sync" y .success none none]
    let c := acquire "sync" y ⟨110, 0⟩ minute
    a.granted {} ∧
      Lease.kept "sync" x (Lease.current "sync" (answered {} [a]))
        (answered (a.run {}) (during ++ [c])) ∧
      holderOf (runAll during (a.run {})) "sync" = some x ∧
      c.granted (runAll during (a.run {})) = false := by
  intro x y minute a during c
  have hgranted : a.granted {} := by decide
  have hkept : Lease.kept "sync" x (Lease.current "sync" (answered {} [a]))
      (answered (a.run {}) (during ++ [c])) := by decide
  obtain ⟨-, hexclusive⟩ := acquire_exclusive [] "sync" x ⟨0, 0⟩ minute
  obtain ⟨hholder, -, hrefused⟩ := hexclusive hgranted during c hkept
  exact ⟨hgranted, hkept, hholder, (hrefused rfl (.inl rfl)).1⟩

end LeaseCall

end GovernanceIndex
