import GovernanceIndex.Admin.Router
import GovernanceIndex.Proofs.Jobs.LastRuns

/-!
What the admin surface tells of runs. Requests come one after another to a worker that starts with
an empty store. The answer to a trigger tells what its run came to, and whoever asks for the state
of a job is told of its last run. Only triggers change anything: the answers to requests are the
same whether or not there are other requests in between that ask for something.
-/
namespace GovernanceIndex

theorem Text.eq_of_split_eq {p : Char → Bool} {s piece : List Char} (h : split p s = [piece]) :
    piece = s := by
  have hne (s : List Char) : split p s ≠ [] := by
    cases s with
    | nil => exact List.cons_ne_nil _ _
    | cons c s =>
      unfold split
      split
      · exact List.cons_ne_nil _ _
      · split <;> exact List.cons_ne_nil _ _
  induction s generalizing piece with
  | nil => exact (List.singleton_inj.mp h).symm
  | cons c s ih =>
    unfold split at h
    split at h
    · exact absurd (List.cons.inj h).2 (hne s)
    · rcases hs : split p s with _ | ⟨first, rest⟩ <;> rw [hs] at h
      · exact absurd hs (hne s)
      · obtain ⟨rfl, rfl⟩ := List.cons.inj h
        rw [ih hs]

def jobPath (name : String) : String := "/admin/jobs/" ++ name

theorem Resource.ofPath?_jobPath (name : String) :
    ofPath? (jobPath name) = none ∨ ofPath? (jobPath name) = some (.job name) := by
  have hsplit : Text.splitAt '/' (jobPath name) =
      "" :: "admin" :: "jobs" :: Text.splitAt '/' name := by
    unfold Text.splitAt jobPath
    rw [String.toList_append]
    rfl
  unfold ofPath?
  rw [hsplit]
  rcases hs : Text.splitAt '/' name with _ | ⟨piece, _ | ⟨piece', rest⟩⟩
  · exact .inl rfl
  · obtain ⟨cs, hcs, rfl⟩ := List.map_eq_singleton_iff.mp hs
    rw [Text.eq_of_split_eq hcs, String.ofList_toList]
    by_cases hname : name = ""
    · exact .inl (if_pos hname)
    · exact .inr (if_neg hname)
  · exact .inl rfl

theorem Resource.ofPath?_name (job : Job) : ofPath? (jobPath job.name) = some (.job job.name) := by
  cases job <;> decide

structure AdminRequest where
  now : Timestamp
  method : String
  target : String
  deriving DecidableEq, Repr

def AdminRequest.job? (q : AdminRequest) : Option Job :=
  if q.method = "POST" then
    match (Web.RequestTarget.path? q.target).bind Resource.ofPath? with
    | some (.job name) => Job.names.lookup name
    | _ => none
  else none

theorem Job.lookup_name (job : Job) : names.lookup job.name = some job := by
  cases job <;> decide

theorem Job.name_of_lookup {name : String} {job : Job} (h : names.lookup name = some job) :
    name = job.name := by
  obtain ⟨before, after, hnames, -⟩ := List.lookup_eq_some_iff.mp h
  have hmem : (name, job) ∈ names := by
    rw [hnames]
    exact List.mem_append_right _ List.mem_cons_self
  have hall : ∀ x ∈ names, x.1 = x.2.name := by decide
  exact hall _ hmem

theorem AdminRequest.job?_of_path {q : AdminRequest} {job : Job} (hmethod : q.method = "POST")
    (hpath : Web.RequestTarget.path? q.target = some (jobPath job.name)) : q.job? = some job := by
  unfold job?
  rw [if_pos hmethod, hpath, Option.bind_some, Resource.ofPath?_name]
  exact job.lookup_name

theorem AdminRequest.exists_of_job? {q : AdminRequest} {job : Job} (h : q.job? = some job) :
    q.method = "POST" ∧ ∃ path name, Web.RequestTarget.path? q.target = some path ∧
      Resource.ofPath? path = some (.job name) ∧ Job.names.lookup name = some job := by
  unfold job? at h
  split at h
  · next hmethod =>
    rcases hpath : Web.RequestTarget.path? q.target with _ | path <;> rw [hpath] at h
    · cases h
    · rw [Option.bind_some] at h
      rcases hresource : Resource.ofPath? path with _ | _ | name | _ <;> rw [hresource] at h
      · cases h
      · cases h
      · exact ⟨hmethod, path, name, rfl, hresource, h⟩
      · cases h
  · cases h

theorem AdminRequest.job?_of_get {q : AdminRequest} (hmethod : q.method = "GET") :
    q.job? = none := by
  unfold job?
  rw [hmethod, if_neg (by decide)]

namespace World

variable {L : Type} [LedgerService L]

def serve (c : Settings) (w : World L) (q : AdminRequest) : Except Halt Response × World L :=
  Run.respond c q.method q.target (w.atTime q.now)

def answers (c : Settings) : World L → List AdminRequest → List (Except Halt Response)
  | _, [] => []
  | w, q :: qs => (w.serve c q).1 :: (w.serve c q).2.answers c qs

/-- The world behind the answers to requests. -/
def behind (c : Settings) : World L → List AdminRequest → World L
  | w, [] => w
  | w, q :: qs => (w.serve c q).2.behind c qs

/-- The runs that a request leads to, the last one first. -/
def runsAt (c : Settings) (lease : Duration) (w : World L) (q : AdminRequest) : List PastRun :=
  match q.job? with
  | some job => Run.runsOf c lease (w.atTime q.now) job
  | none => []

/-- The runs that requests lead to, the last one first. -/
def runs (c : Settings) (lease : Duration) : World L → List AdminRequest → List PastRun
  | _, [] => []
  | w, q :: qs => (w.serve c q).2.runs c lease qs ++ w.runsAt c lease q

end World

theorem World.call_read {L : Type} {w : World L} (hw : w.faults = {}) {k : StoreCall} {r : k.Result}
    (hk : k.isWrite = false) (hr : w.store.perform k = .ok (r, w.store)) :
    w.call k = (.ok r, w) := by
  have hnote : w.note k = w := by
    unfold note
    rw [hk]
    rfl
  unfold call takeFault
  rw [hw, Table.get?_empty]
  dsimp only
  rw [hnote, hr]

namespace Run

variable {L : Type} [LedgerService L] {c : Settings} {w : World L}

omit [LedgerService L] in
theorem showJob_unknown {name : String} (h : Job.names.lookup name = none) (w : World L) :
    showJob name w = (.ok (.notFound ("unknown job " ++ name)), w) := by
  unfold showJob
  rw [h]
  rfl

omit [LedgerService L] in
theorem showJob_known {job : Job} (hw : w.faults = {}) :
    showJob job.name w =
      (.ok (match w.store.locks.get? job.name with
        | some lock => .ok lock.encode
        | none => .notFound ("job " ++ job.name ++ " has never run")), w) := by
  have hread : (jobState job.name : Run L _) w = (.ok (w.store.locks.get? job.name), w) := by
    unfold jobState
    rw [call_eq, World.call_read hw (k := .lock job.name) rfl rfl]
  unfold showJob
  rw [job.lookup_name, Option.isNone_some, if_neg Bool.false_ne_true, bind_apply, attempt_apply,
    hread]
  dsimp only
  rcases w.store.locks.get? job.name with _ | lock <;> rfl

omit [LedgerService L] in
theorem showTally_still (hw : w.faults = {}) (encoded : String) :
    ∃ response, showTally c encoded w = (.ok response, w) := by
  unfold showTally
  rcases Web.decode encoded with fault | text
  · exact ⟨_, rfl⟩
  · dsimp only
    rcases Identifier.parse .proposal text with cause | id
    · exact ⟨_, rfl⟩
    · have hread : (proposalTally c id : Run L _) w =
          (.ok ((w.store.proposals.get? id).map fun s =>
            ProposalTally.ofSnapshot s c.thresholds c.cutover), w) := by
        unfold proposalTally
        rw [bind_apply, call_eq, World.call_read hw (k := .proposal id) rfl rfl]
        rfl
      dsimp only
      rw [bind_apply, attempt_apply, hread]
      dsimp only
      rcases (w.store.proposals.get? id).map fun s =>
        ProposalTally.ofSnapshot s c.thresholds c.cutover with _ | tally <;> exact ⟨_, rfl⟩

omit [LedgerService L] in
theorem display_still (hw : w.faults = {}) (resource : Resource) :
    ∃ response, display c resource w = (.ok response, w) := by
  cases resource with
  | health => exact ⟨_, rfl⟩
  | job name =>
    rcases hname : Job.names.lookup name with _ | job
    · exact ⟨_, showJob_unknown hname w⟩
    · obtain rfl := Job.name_of_lookup hname
      exact ⟨_, showJob_known hw⟩
  | tally id => exact showTally_still hw id

theorem respondAt_still (hw : w.faults = {}) {method path : String}
    (h : ∀ name, method = "POST" → Resource.ofPath? path = some (.job name) →
      Job.names.lookup name = none) :
    ∃ response, respondAt c method path w = (.ok response, w) := by
  unfold respondAt
  rcases hresource : Resource.ofPath? path with _ | resource
  · exact ⟨_, rfl⟩
  · obtain ⟨response, hdisplay⟩ := display_still (c := c) hw resource
    dsimp only
    split
    · exact ⟨response, hdisplay⟩
    · split
      · refine ⟨{ response with body := .empty }, ?_⟩
        rw [bind_apply, hdisplay]
        rfl
      · split
        · next name _ _ =>
          rw [h name rfl hresource]
          exact ⟨_, rfl⟩
        · exact ⟨_, rfl⟩

end Run

namespace World

variable {L : Type} [LedgerService L] {c : Settings} {w : World L} {q : AdminRequest}

theorem serve_of_path {path : String} (hpath : Web.RequestTarget.path? q.target = some path) :
    w.serve c q = Run.respondAt c q.method path (w.atTime q.now) := by
  unfold serve Run.respond
  rw [hpath]

theorem serve_still (hw : w.faults = {}) (hq : q.job? = none) :
    ∃ response, w.serve c q = (.ok response, w.atTime q.now) := by
  rcases hpath : Web.RequestTarget.path? q.target with _ | path
  · refine ⟨⟨400, .empty⟩, ?_⟩
    unfold serve Run.respond
    rw [hpath]
    rfl
  · rw [serve_of_path hpath]
    apply Run.respondAt_still (w := w.atTime q.now) hw
    intro name hmethod hresource
    unfold AdminRequest.job? at hq
    rw [if_pos hmethod, hpath, Option.bind_some, hresource] at hq
    exact hq

theorem serve_trigger {job : Job} (hq : q.job? = some job) :
    w.serve c q = Run.trigger c job (w.atTime q.now) := by
  obtain ⟨hmethod, path, name, hpath, hresource, hname⟩ := AdminRequest.exists_of_job? hq
  rw [serve_of_path hpath, hmethod]
  unfold Run.respondAt
  rw [hresource]
  change (match Job.names.lookup name with
    | some job => Run.trigger c job
    | none => pure ⟨405, .empty⟩ : Run L Response) (w.atTime q.now) = _
  rw [hname]

theorem serve_state {job : Job} (hmethod : q.method = "GET")
    (hpath : Web.RequestTarget.path? q.target = some (jobPath job.name)) :
    w.serve c q = Run.showJob job.name (w.atTime q.now) := by
  rw [serve_of_path hpath, hmethod]
  unfold Run.respondAt
  rw [Resource.ofPath?_name]
  rfl

theorem serve_unknown {name : String} (hmethod : q.method = "GET")
    (hpath : Web.RequestTarget.path? q.target = some (jobPath name))
    (hname : ∀ job : Job, name ≠ job.name) :
    ∃ response, (w.serve c q).1 = .ok response ∧ response.status = 404 := by
  have hnone : Job.names.lookup name = none :=
    Option.eq_none_iff_forall_ne_some.mpr fun job hjob => hname job (Job.name_of_lookup hjob)
  rw [serve_of_path hpath, hmethod]
  unfold Run.respondAt
  obtain hresource | hresource := Resource.ofPath?_jobPath name <;> rw [hresource]
  · exact ⟨_, rfl, rfl⟩
  · exact ⟨_, congrArg Prod.fst (Run.showJob_unknown hnone (w.atTime q.now)), rfl⟩

end World

def PastRun.answer (run : PastRun) : Except Halt Response :=
  match run.result with
  | .ok report => .ok (.ok ((JobRun.completed report).encode id))
  | .error (.failed cause) => .ok (.ofFailure cause)
  | .error halt => .error halt

/-- What the answer to a trigger tells of the run that it led to. There is no answer if the run
crashed. -/
structure PastRun.Answered {L : Type} [LedgerService L] (c : Settings) (start : World L)
    (run : PastRun) (answer : Except Halt Response) (w : World L) : Prop where
  completed : ∀ report, run.result = .ok report →
    answer = .ok (.ok (.obj [("status", .str "completed"), ("report", report)]))
  failed : ∀ cause, run.result = .error (.failed cause) →
    answer = .ok (.ofFailure cause) ∧ 500 ≤ (Response.ofFailure cause).status
  halted : ∀ halt, run.result = .error halt → (∃ cause, halt = .failed cause) ∨
    halt = .crashed (some "attempt to add with overflow") ∧ answer = .error halt ∧
      ∃ k, start.MayReport c k ∧ 2 ^ 64 ≤ w.commits + k
  status : ∀ response, answer = .ok response →
    response.status ≠ 409 ∧ (response.status = 200 ↔ ∃ report, run.result = .ok report)

theorem PastRun.answered {L : Type} [LedgerService L] {c : Settings} {start w : World L}
    {run : PastRun} (h : ∀ halt, run.result = .error halt → halt.Foreseen c start w) :
    run.Answered c start run.answer w := by
  obtain ⟨job, result, outcome⟩ := run
  rcases result with halt | report
  · -- Whatever fails answers with a status of its own from 500 on.
    have hfails {cause : SyncError} (hstatus : 500 ≤ (Response.ofFailure cause).status) :
        PastRun.Answered c start ⟨job, .error (.failed cause), outcome⟩
          (.ok (.ofFailure cause)) w := by
      refine ⟨nofun, ?_, ?_, ?_⟩
      · rintro _ ⟨⟩
        exact ⟨rfl, hstatus⟩
      · rintro _ ⟨⟩
        exact .inl ⟨cause, rfl⟩
      · rintro _ ⟨⟩
        exact ⟨by omega, iff_of_false (by omega) (fun hreport => nomatch hreport)⟩
    cases h halt rfl with
    | ledger cause => exact hfails (by cases cause <;> exact Nat.le_of_ble_eq_true rfl)
    | incomplete epoch step failed total => exact hfails (Nat.le_of_ble_eq_true rfl)
    | early tip => exact hfails (Nat.le_of_ble_eq_true rfl)
    | overflow hmany =>
      refine ⟨nofun, nofun, ?_, nofun⟩
      rintro _ ⟨⟩
      exact .inr ⟨rfl, rfl, hmany⟩
  · refine ⟨?_, nofun, nofun, ?_⟩
    · rintro _ ⟨⟩
      rfl
    · rintro _ ⟨⟩
      exact ⟨nofun, iff_of_true rfl ⟨report, rfl⟩⟩

namespace Run

variable {L α : Type} [LedgerService L] [JobReport α] {c : Settings} {start w : World L}
  {holder : Worker} {past : List PastRun} {job : Job} {encode : α → Json} {r : Except Halt α}
  {run : Run L (JobRun α)}

/-- What a trigger leads to: an answer that tells of the run of the job, and a worker at rest behind
the runs. -/
structure Reports (c : Settings) (start : World L) (holder : Worker) (past runs : List PastRun)
    (job : Job) (m : Except Halt Response × World L) : Prop where
  answered : ∃ run, PastRun.last? job runs = some run ∧ run.Answered c start m.1 m.2
  rest : m.2.AtRest start holder (runs ++ past)

theorem triggered_apply (h : Settled c start holder past job encode r (run w)) :
    triggered job encode run w = ((PastRun.of job encode r).answer, (run w).2) := by
  have hcomes := h.comes
  unfold triggered
  rw [bind_apply, attempt_apply]
  rcases hr : run w with ⟨r', v⟩
  rw [hr] at hcomes
  dsimp only at hcomes
  rcases r with (cause | text | _) | report <;> cases hcomes <;> rfl

theorem triggered_reports (parts : List PastRun)
    (h : Settled c start holder (parts ++ past) job encode r (run w)) :
    Reports c start holder past (.of job encode r :: parts) job (triggered job encode run w) := by
  rw [triggered_apply h]
  refine ⟨⟨_, PastRun.last?_self job encode r parts, PastRun.answered fun halt hhalt => ?_⟩,
    h.rests.rest⟩
  apply h.rests.halts
  rcases r with halt' | report <;> cases hhalt
  rfl

theorem trigger_reports {lease : Duration} {id : WorkerId} (h : w.AtRest start ⟨id, []⟩ past)
    (hlease : c.epochLease.add? c.delegationLease = some lease)
    (hends : (w.now.add? lease).isSome) (job : Job) :
    Reports c start ⟨id, []⟩ past (runsOf c lease w job) job (trigger c job w) := by
  cases job with
  | epochSync => exact triggered_reports [] (settled_runEpochSync h hlease hends)
  | delegationSync => exact triggered_reports [] (settled_runDelegationSync h hlease hends)
  | fullSync => exact triggered_reports _ (settled_runFullSync h hlease hends)

end Run

/-- What the answer to a request for the state of a job tells of its last run. -/
def ShowsRun (id : WorkerId) (answer : Except Halt Response) : Option PastRun → Prop
  | none => ∃ response, answer = .ok response ∧ response.status = 404
  | some run => ∃ o ∈ run.outcome, ∃ lock : JobLock, answer = .ok (.ok lock.encode) ∧
    lock.isRunning = false ∧ lock.lockedBy = some id ∧ lock.lastResult = some o.result ∧
    lock.itemsProcessed = o.items ∧ lock.errorMessage = o.errorMessage

namespace World

variable {L : Type} [LedgerService L] {c : Settings} {lease : Duration} {start w : World L}
  {id : WorkerId} {past : List PastRun} {q : AdminRequest}

/-- A worker whose store is empty and takes every call, and who holds no lease. -/
structure Fresh (w : World L) : Prop where
  store : w.store = {}
  held : w.worker.held = []
  faults : w.faults = {}
  deadline : w.deadline = none

theorem atTime_answers (w : World L) (now : Timestamp) (qs : List AdminRequest) :
    (w.atTime now).answers c qs = w.answers c qs := by
  cases qs <;> rfl

theorem answers_append (w : World L) (before after : List AdminRequest) :
    w.answers c (before ++ after) = w.answers c before ++ (w.behind c before).answers c after := by
  induction before generalizing w with
  | nil => rfl
  | cons q before ih => exact congrArg _ (ih _)

theorem length_answers (w : World L) (qs : List AdminRequest) :
    (w.answers c qs).length = qs.length := by
  induction qs generalizing w with
  | nil => rfl
  | cons q qs ih => exact congrArg _ (ih _)

/-- Without a request that leaves the world as it is the other answers are the same. -/
theorem answers_eraseIdx (w : World L) (before after : List AdminRequest) {r : Except Halt Response}
    (hserve : (w.behind c before).serve c q = (r, (w.behind c before).atTime q.now)) :
    (w.answers c (before ++ q :: after)).eraseIdx before.length =
      w.answers c (before ++ after) := by
  have hrest : (w.behind c before).answers c (q :: after) =
      r :: (w.behind c before).answers c after := by
    change (((w.behind c before).serve c q).1 ::
      ((w.behind c before).serve c q).2.answers c after) = _
    rw [hserve, atTime_answers]
  rw [answers_append, hrest, ← w.length_answers (c := c) before,
    List.eraseIdx_append_of_length_le (Nat.le_refl _), Nat.sub_self, List.eraseIdx_cons_zero,
    answers_append]

theorem AtRest.atTime (h : w.AtRest start ⟨id, []⟩ past) (now : Timestamp) :
    (w.atTime now).AtRest start ⟨id, []⟩ past :=
  ⟨h.unfailing.move (.still rfl rfl rfl rfl rfl), h.worker, h.shows⟩

theorem Fresh.atRest (h : w.Fresh) : w.AtRest w ⟨w.worker.id, []⟩ [] := by
  have hcounted : w.Counted 0 := by
    unfold Counted
    rw [h.store]
    exact nofun
  refine ⟨⟨⟨⟨rfl, hcounted, Nat.zero_le _⟩, refl_of Requests w⟩, h.faults, h.deadline⟩, ?_,
    fun job _ => ?_⟩
  · rw [← h.held]
  · rw [h.store]
    rfl

theorem AtRest.serve (hlease : c.epochLease.add? c.delegationLease = some lease)
    (h : w.AtRest start ⟨id, []⟩ past) (hends : (q.now.add? lease).isSome) :
    (w.serve c q).2.AtRest start ⟨id, []⟩ (w.runsAt c lease q ++ past) := by
  unfold runsAt
  rcases hq : q.job? with _ | job
  · obtain ⟨response, hserve⟩ := serve_still (c := c) h.unfailing.unhindered.faults hq
    rw [hserve]
    exact h.atTime q.now
  · rw [serve_trigger hq]
    exact (Run.trigger_reports (h.atTime q.now) hlease hends job).rest

/-- Requests leave a worker at rest behind the runs that they lead to. -/
theorem AtRest.behind (hlease : c.epochLease.add? c.delegationLease = some lease)
    (h : w.AtRest start ⟨id, []⟩ past) {qs : List AdminRequest}
    (hends : ∀ q ∈ qs, (q.now.add? lease).isSome) :
    (w.behind c qs).AtRest start ⟨id, []⟩ (w.runs c lease qs ++ past) := by
  induction qs generalizing w past with
  | nil => exact h
  | cons q qs ih =>
    obtain ⟨hfirst, hrest⟩ := List.forall_mem_cons.mp hends
    unfold runs
    rw [List.append_assoc]
    exact ih (h.serve hlease hfirst) hrest

theorem AtRest.shows_run (h : w.AtRest start ⟨id, []⟩ past) (job : Job) :
    ShowsRun id (Run.showJob job.name w).1 (PastRun.last? job past) := by
  have hshows := h.shows job List.not_mem_nil
  rw [Run.showJob_known h.unfailing.unhindered.faults]
  rcases hlast : PastRun.last? job past with _ | run <;> rw [hlast] at hshows
  · have hnone : w.store.locks.get? job.name = none := Option.map_eq_none_iff.mp hshows
    rw [hnone]
    exact ⟨_, rfl, rfl⟩
  · obtain ⟨o, ho, row, hholder, hrow⟩ := hshows
    obtain ⟨lock, hlock, hrunning, hresult, hitems, hmessage, hlocked⟩ :=
      Store.exists_of_lastingRow hrow
    rw [Option.mem_def.mp hlock]
    exact ⟨o, ho, lock, rfl, hrunning, hlocked.trans hholder, hresult, hitems, hmessage⟩

/-- Requests come one after another to a worker that starts with an empty store, at times at which
leases have an end, and whatever the service answers. A trigger is answered with the report of its
run or with an error, and never told that the job is running, unless the run crashes since more
delegators are reported than can be counted. The state of a job tells of the last of its runs so
far, which are those of its own triggers and of full syncs; before the first one, and for any other
name, there is none. What is asked for changes no other answer. -/
theorem answers_report_runs (hlease : c.epochLease.add? c.delegationLease = some lease)
    (hw : w.Fresh) (before : List AdminRequest) (q : AdminRequest) (after : List AdminRequest)
    (hends : ∀ x ∈ before ++ q :: after, (x.now.add? lease).isSome) :
    let v := w.behind c before
    let answer := (v.serve c q).1
    (w.answers c (before ++ q :: after))[before.length]? = some answer ∧
      (∀ job : Job, q.method = "POST" →
        Web.RequestTarget.path? q.target = some (jobPath job.name) →
          ∃ run, PastRun.last? job (Run.runsOf c lease (v.atTime q.now) job) = some run ∧
            run.Answered c w answer (v.serve c q).2) ∧
      (∀ job : Job, q.method = "GET" →
        Web.RequestTarget.path? q.target = some (jobPath job.name) →
          ShowsRun w.worker.id answer (PastRun.last? job (w.runs c lease before))) ∧
      (∀ name, q.method = "GET" → Web.RequestTarget.path? q.target = some (jobPath name) →
        (∀ job : Job, name ≠ job.name) → ∃ response, answer = .ok response ∧
          response.status = 404) ∧
      (q.method = "GET" → (w.answers c (before ++ q :: after)).eraseIdx before.length =
        w.answers c (before ++ after)) := by
  intro v answer
  have hrest : v.AtRest w ⟨w.worker.id, []⟩ (w.runs c lease before) := by
    have hbehind := hw.atRest.behind (c := c) hlease fun x hx =>
      hends x (List.mem_append_left _ hx)
    rwa [List.append_nil] at hbehind
  have hend : (q.now.add? lease).isSome :=
    hends q (List.mem_append_right _ List.mem_cons_self)
  refine ⟨?_, fun job hmethod hpath => ?_, fun job hmethod hpath => ?_,
    fun name hmethod hpath hname => serve_unknown hmethod hpath hname, fun hmethod => ?_⟩
  · rw [answers_append, ← w.length_answers (c := c) before,
      List.getElem?_append_right (Nat.le_refl _), Nat.sub_self]
    rfl
  · have hserve := serve_trigger (c := c) (w := v) (AdminRequest.job?_of_path hmethod hpath)
    have hreports := Run.trigger_reports (c := c) (hrest.atTime q.now) hlease hend job
    rw [← hserve] at hreports
    exact hreports.answered
  · have hshows := (hrest.atTime q.now).shows_run job
    rw [← serve_state hmethod hpath] at hshows
    exact hshows
  · obtain ⟨response, hserve⟩ := serve_still (c := c) hrest.unfailing.unhindered.faults
      (AdminRequest.job?_of_get hmethod)
    exact w.answers_eraseIdx before after hserve

/-- A full sync is triggered, and then the state of the sync of epochs is asked for. -/
theorem answers_report_runs_full :
    let w := (DelegationCycle.meeting ⟨1⟩ ⟨0⟩ ⟨0⟩ DelegationCycle.firstDelegate).world
    let trigger : AdminRequest := ⟨⟨65, 0⟩, "POST", "/admin/jobs/full-sync"⟩
    let state : AdminRequest := ⟨⟨66, 0⟩, "GET", "/admin/jobs/epoch-sync"⟩
    ∃ answer, ∃ lock : JobLock,
      w.answers {} [trigger, state] = [answer, .ok (.ok lock.encode)] ∧
        lock.isRunning = false ∧ lock.lockedBy = some w.worker.id ∧
          lock.lastResult = some .success ∧ lock.itemsProcessed = some 1 := by
  intro w trigger state
  have hlease : (Settings.epochLease {}).add? (Settings.delegationLease {}) =
      some (.ofSecs 5400) := by decide
  have hw : w.Fresh := ⟨rfl, rfl, rfl, rfl⟩
  have hends : ∀ x ∈ [trigger] ++ [state], (x.now.add? (.ofSecs 5400)).isSome := by decide
  have hlast : (PastRun.last? .epochSync (w.runs {} (.ofSecs 5400) [trigger])).map
      PastRun.outcome = some (some ⟨.success, some 1, none⟩) := by decide +kernel
  obtain ⟨-, -, hshows, -⟩ := answers_report_runs hlease hw [trigger] state [] hends
  have hshown := hshows .epochSync rfl (by decide)
  obtain ⟨run, hrun, houtcome⟩ := Option.map_eq_some_iff.mp hlast
  rw [hrun] at hshown
  obtain ⟨o, ho, lock, hanswer, hrunning, hholder, hresult, hitems, -⟩ := hshown
  obtain rfl := Option.some.inj (ho.symm.trans houtcome)
  exact ⟨(w.serve {} trigger).1, lock, congrArg (fun x => [_, x]) hanswer, hrunning, hholder,
    hresult, hitems⟩

end World

end GovernanceIndex
