import GovernanceIndex.Proofs.Jobs.LeaseBalance
import GovernanceIndex.Proofs.Jobs.LeaseFrames
import GovernanceIndex.Proofs.Sync.CycleTwins
import GovernanceIndex.Proofs.Sync.LogOrder
import GovernanceIndex.Proofs.Sync.Recall

/-!
Full syncs. A full sync remembers between its two parts what either of them read. Against fixed
replies that list every delegate once this cannot be told from two runs of their own, the second of
which remembers nothing of the first: the reports are the same, and the stores are alike. This is
so for every store that runs without faults lead to, also where leases are refused or a part of it
halts.
-/
namespace GovernanceIndex

open Run
open Store (Alike SameData)
open World (Charts Elsewhere Fixed LeaseFrame Recalling Spares Twins)

namespace World

variable {L : Type} {w : World L}

theorem Faultless.releases (h : w.Faultless) : w.Releases := h .releaseLease

theorem Charts.leaseFrame (job : String) : LeaseFrame job (Charts : World L → World L → Prop) :=
  calls.leaseFrame of_sameData job

variable [LedgerService L]

/-- What is fixed of a world stays fixed. -/
def Steady (w w' : World L) : Prop := ∀ f s k, w.Fixed f s k → w'.Fixed f s k

instance : IsPreorder (World L) Steady where
  refl _ _ _ _ := id
  trans _ _ _ h h' f s k hw := h' f s k (h f s k hw)

theorem Steady.leaseFrame (job : String) :
    LeaseFrame job (Steady : World L → World L → Prop) where
  acquire w lease _ _ _ hw := by
    have hdata := call_relates (w := w) (c := .acquireLease job w.worker.id w.now lease)
      fun _ _ => Store.acquireLease_sameData
    exact hw.call _ (trans_of SameData hw.data hdata)
  release w result items errorMessage _ _ _ hw := by
    have hdata := call_relates (w := w)
      (c := .releaseLease job w.worker.id result items errorMessage)
      fun _ _ => Store.releaseLease_sameData
    exact hw.call _ (trans_of SameData hw.data hdata)
  hold _ _ _ _ hw := { hw with }
  drop _ _ _ _ hw := { hw with }
  tend _ _ _ _ _ hw := { hw with }
  rest _ _ _ _ hw := { hw with }

/-- A world at a time at which nothing is remembered. -/
def turned (w : World L) (now : Timestamp) : World L := { w.atTime now with cache := {} }

theorem Fixed.turned {f : Replies} {s : Store} {k : JobCache} (h : w.Fixed f s k)
    (now : Timestamp) : (w.turned now).Fixed f s {} := { h with cache := rfl }

end World

/-- A store that runs of the jobs lead to, during which no call of the store meets a fault. -/
inductive Store.Worked : Store → Prop
  | empty : Worked {}
  | epochSync {L : Type} [LedgerService L] (c : Settings) (w : World L) :
    w.Faultless → Worked w.store → Worked (runEpochSync c w).2.store
  | delegationSync {L : Type} [LedgerService L] (c : Settings) (w : World L) :
    w.Faultless → Worked w.store → Worked (runDelegationSync c w).2.store
  | fullSync {L : Type} [LedgerService L] (c : Settings) (w : World L) :
    w.Faultless → Worked w.store → Worked (runFullSync c w).2.store

theorem World.Charts.after {L : Type} [LedgerService L] (w : World L) (c : Settings) (job : Job) :
    Charts w (w.after c job) :=
  after_shifts leaseFrame (fun _ => id) (chartEpochs c) (syncDelegations c) w job

theorem Store.Worked.charted {s : Store} (h : s.Worked) : s.Charted := by
  induction h with
  | empty => exact ⟨⟨List.nodup_nil, nofun⟩, fun _ _ => by simp [Store.snapshotsOf, Store.ofEpoch]⟩
  | epochSync c w hw _ ih => exact (Charts.after w c .epochSync ⟨hw, ih⟩).2
  | delegationSync c w hw _ ih => exact (Charts.after w c .delegationSync ⟨hw, ih⟩).2
  | fullSync c w hw _ ih => exact (Charts.after w c .fullSync ⟨hw, ih⟩).2

namespace Run

variable {L α : Type} [LedgerService L] [JobReport α] {f : Replies} {c : Settings}
  {K : JobCache → JobCache → Prop} {w w' : World L} {job : String} {lease : Duration}
  {granted : Bool}

omit [LedgerService L] in
theorem affirms_of_ok (h : (tryAcquire job lease w).1 = .ok granted) :
    (tryAcquire job lease).affirms w = granted := by
  unfold affirms
  rw [h]
  cases granted <;> rfl

omit [LedgerService L] in
theorem exclusive_not_granted (work : Run L α) (h : (tryAcquire job lease w).1 = .ok false) :
    (exclusive job lease work w).1 = .ok .alreadyRunning := by
  have hrun : tryAcquire job lease w = (.ok false, (tryAcquire job lease w).2) := Prod.ext h rfl
  rw [exclusive_of_refused hrun nofun]
  rfl

/-- Exclusive runs in twin worlds that are both granted their lease, or both refused it, agree if
their work agrees. -/
theorem exclusive_twins {work : Run L α} (hw : Twins f K w w') (hspares : Ends (Spares []) work)
    (h : (tryAcquire job lease w).1 = .ok granted) (h' : (tryAcquire job lease w').1 = .ok granted)
    (hwork : Twins f K (begun job lease w) (begun job lease w') →
      (work (begun job lease w')).1 = (work (begun job lease w)).1 ∧
        Twins f K (work (begun job lease w)).2 (work (begun job lease w')).2) :
    (exclusive job lease work w').1 = (exclusive job lease work w).1 ∧
      Twins f K (exclusive job lease work w).2 (exclusive job lease work w').2 := by
  have hsteady : LeaseFrame job (World.Steady : World L → World L → Prop) :=
    World.Steady.leaseFrame job
  have haffirms := affirms_of_ok h
  have haffirms' := affirms_of_ok h'
  cases granted with
  | false =>
    rw [exclusive_not_granted work h, exclusive_not_granted work h']
    exact ⟨rfl, hw.stay (hsteady.refused work haffirms _ _ _ hw.left)
      (hsteady.refused work haffirms' _ _ _ hw.right) hw.caches⟩
  | true =>
    obtain ⟨hends, hbehind⟩ := hwork <|
      hw.stay (hsteady.begun lease w _ _ _ hw.left) (hsteady.begun lease w' _ _ _ hw.right)
        hw.caches
    rw [exclusive_comes hspares haffirms hw.left.faultless.releases List.not_mem_nil,
      exclusive_comes hspares haffirms' hw.right.faultless.releases List.not_mem_nil, hends]
    exact ⟨rfl, hbehind.stay (hsteady.behind work haffirms _ _ _ hbehind.left)
      (hsteady.behind work haffirms' _ _ _ hbehind.right) hbehind.caches⟩

theorem epochJob_twins (hw : Twins f Eq w w')
    (h : (tryAcquire Job.epochSync.name c.epochLease w).1 = .ok granted)
    (h' : (tryAcquire Job.epochSync.name c.epochLease w').1 = .ok granted) :
    (epochJob c w').1 = (epochJob c w).1 ∧ Twins f Eq (epochJob c w).2 (epochJob c w').2 := by
  apply exclusive_twins hw (fun w _ => Spares.syncEpochs [] c w) h h'
  intro hbegun
  obtain ⟨hends, hbehind⟩ := agreeSyncEpochs c _ _ hbegun
  exact ⟨hends.eq, hbehind⟩

theorem delegationJob_twins (hw : Twins f (fun _ _ => True) w w')
    (hobserved : f.observed c w'.store w'.cache = f.observed c w.store w.cache)
    (h : (tryAcquire Job.delegationSync.name c.delegationLease w).1 = .ok granted)
    (h' : (tryAcquire Job.delegationSync.name c.delegationLease w').1 = .ok granted) :
    (delegationJob c w').1 = (delegationJob c w).1 ∧
      Twins f (fun _ _ => True) (delegationJob c w).2 (delegationJob c w').2 := by
  have hsteady : LeaseFrame Job.delegationSync.name (World.Steady : World L → World L → Prop) :=
    World.Steady.leaseFrame _
  apply exclusive_twins hw (fun w _ => Spares.syncDelegations [] c w) h h'
  intro hbegun
  apply agreeSyncDelegations c hbegun
  rw [(hsteady.begun c.delegationLease w' _ _ _ hw.right).observed, hobserved,
    (hsteady.begun c.delegationLease w _ _ _ hw.left).observed]

/-- Behind a run of a sync of epochs what is remembered is what would be read, unless the run halted
since the tip cannot be had. -/
theorem epochJob_recalls (hf : f.ListsOnce c) (hw : w.Recalling f c)
    (h : (tryAcquire Job.epochSync.name c.epochLease w).1 = .ok granted) :
    ((∃ x, (epochJob c w).1 = .ok x) ∧ (epochJob c w).2.Recalling f c) ∨
      ∃ halt, (epochJob c w).1 = .error halt ∧
        Replies.halting (f.knownTip {}) = .error halt := by
  have hsteady : LeaseFrame Job.epochSync.name (World.Steady : World L → World L → Prop) :=
    World.Steady.leaseFrame _
  have haffirms := affirms_of_ok h
  cases granted with
  | false =>
    refine .inl ⟨⟨_, exclusive_not_granted _ h⟩, ?_⟩
    exact .of_fixed (hsteady.refused _ haffirms _ _ _ hw.fixed) hw.charted hw.recalls
  | true =>
    have hbegun : (begun Job.epochSync.name c.epochLease w).Recalling f c :=
      .of_fixed (hsteady.begun c.epochLease w _ _ _ hw.fixed) hw.charted hw.recalls
    have hbehind := hsteady.behind (syncEpochs c) haffirms
    have hcomes := exclusive_comes (fun w _ => Spares.syncEpochs [] c w) haffirms
      hw.fixed.faultless.releases List.not_mem_nil
    have hends := recollectEpochs hf _ hbegun
    unfold epochJob
    rcases hr : syncEpochs c (begun Job.epochSync.name c.epochLease w) with ⟨halt | x, v⟩ <;>
      rw [hr] at hends hbehind hcomes
    · exact .inr ⟨halt, hcomes, hends.1⟩
    · exact .inl ⟨⟨_, hcomes⟩, .of_fixed (hbehind _ _ _ hends.fixed) hends.charted hends.recalls⟩

theorem delegationJob_sameData (hw : w.Fixed f w.store {}) {halt : Halt}
    (htip : Replies.halting (f.knownTip {}) = .error halt) :
    w.store.SameData (delegationJob c w).2.store := by
  have hsteady : LeaseFrame Job.delegationSync.name (World.Steady : World L → World L → Prop) :=
    World.Steady.leaseFrame _
  rcases haffirms : (tryAcquire Job.delegationSync.name c.delegationLease).affirms w with _ | _
  · exact (hsteady.refused _ haffirms _ _ _ hw).data
  · have hobserved : f.observed c w.store {} = .error halt := by
      unfold Replies.observed
      rw [htip]
      rfl
    have hobserve := fixedObserve c _ (hsteady.begun c.delegationLease w _ _ _ hw)
    have hbehind := hsteady.behind (syncDelegations c) haffirms
    have hcycle := congrArg
      (fun m : Run L DelegationsReport => m (begun Job.delegationSync.name c.delegationLease w))
      (syncDelegations_eq c)
    rw [bind_apply] at hcycle
    rcases hr : (observe c : Run L _) (begun Job.delegationSync.name c.delegationLease w) with
      ⟨_ | _, v⟩ <;> rw [hr] at hobserve hcycle
    · obtain ⟨-, k, hv⟩ := hobserve
      rw [hcycle] at hbehind
      exact (hbehind _ _ _ hv).data
    · obtain ⟨⟨_, hok, -⟩, -⟩ := hobserve
      exact nomatch hobserved.symm.trans hok

end Run

theorem Duration.nanos_of_add? {a b d : Duration} (h : a.add? b = some d) :
    d.nanos = a.nanos + b.nanos := by
  unfold add? at h
  split at h
  · cases h
    rfl
  · cases h

theorem Timestamp.parts_end {t : Timestamp} {a b d : Duration} (h : a.add? b = some d)
    (hends : (t.add? d).isSome) : (t.add? a).isSome ∧ (t.add? b).isSome := by
  have hsum := Duration.nanos_of_add? h
  exact ⟨add?_mono (by omega) hends, add?_mono (by omega) hends⟩

namespace World

variable {L : Type} {w u : World L} {job : String} {lease : Duration} {t : Timestamp}

/-- At another time a worker would be granted the lease of a job just as it would be now. -/
def SameChance (w : World L) (job : String) (lease : Duration) (t : Timestamp) : Prop :=
  (tryAcquire job lease (w.atTime t)).1 = (tryAcquire job lease w).1

theorem SameChance.elsewhere (h : w.SameChance job lease t) (hw : w.Faultless) (hu : u.Faultless)
    (hrenews : w.RenewsHeld) (helsewhere : Elsewhere job (w.atTime t) u) :
    (tryAcquire job lease u).1 = (tryAcquire job lease w).1 :=
  (tryAcquire_elsewhere helsewhere hw hu hrenews).trans h

theorem Elsewhere.turned (w : World L) (t : Timestamp) :
    Elsewhere job (w.atTime t) (w.turned t) :=
  ⟨rfl, rfl, Iff.rfl, fun hrenews => ⟨hrenews, rfl⟩⟩

theorem Elsewhere.epochJob [LedgerService L] (hjob : Job.epochSync.name ≠ job) (c : Settings) :
    Shifts (Elsewhere job) (Run.epochJob c : Run L (JobRun EpochsReport)) :=
  (leaseFrame hjob).exclusive ((frame fun _ => .inl).syncEpochs c)

end World

namespace Run

variable {L : Type}

/-- A full sync comes to the reports, or to the halt, that two runs of their own come to, the
second one behind the first one, and the data that it leaves is like theirs. -/
structure Joins (full : Except Halt (JobRun FullReport) × World L)
    (epochs : Except Halt (JobRun EpochsReport) × World L)
    (delegations : Except Halt (JobRun DelegationsReport) × World L) : Prop where
  data : full.2.store.Alike delegations.2.store
  result : full.1 = epochs.1.bind fun x => delegations.1.map fun y => .completed ⟨x, y⟩
  reports : ∀ report, full.1 = .ok (.completed report) →
    epochs.1 = .ok report.epochs ∧ delegations.1 = .ok report.delegations

theorem Joins.of_result {full : Except Halt (JobRun FullReport) × World L}
    {epochs : Except Halt (JobRun EpochsReport) × World L}
    {delegations : Except Halt (JobRun DelegationsReport) × World L}
    (hdata : full.2.store.Alike delegations.2.store)
    (hresult : full.1 = epochs.1.bind fun x => delegations.1.map fun y => .completed ⟨x, y⟩) :
    Joins full epochs delegations := by
  refine ⟨hdata, hresult, fun report hfull => ?_⟩
  rw [hresult] at hfull
  rcases hx : epochs.1 with halt | x <;> rw [hx] at hfull
  · cases hfull
  · rcases hy : delegations.1 with halt | y <;> rw [hy] at hfull
    · cases hfull
    · cases hfull
      exact ⟨rfl, rfl⟩

variable [LedgerService L] {f : Replies} {c : Settings} {w : World L} {lease : Duration}
  {t₁ t₂ : Timestamp}

/-- Both syncs in one run come to what runs of their own come to, from a world in which all that is
fixed stays so. -/
structure PartsJoin (f : Replies) (both : Except Halt FullReport × World L)
    (epochs : Except Halt (JobRun EpochsReport) × World L)
    (delegations : Except Halt (JobRun DelegationsReport) × World L) : Prop where
  result : both.1 = epochs.1.bind fun x => delegations.1.map fun y => ⟨x, y⟩
  fixed : both.2.Fixed f both.2.store both.2.cache
  data : both.2.store.Alike delegations.2.store

theorem both_of_ok {v v₁ : World L} {x : JobRun EpochsReport}
    (h : epochJob c (v.turned v.now) = (.ok x, v₁)) :
    Pipelines.standard.both c v =
      ((delegationJob c v₁).1.map fun y => ⟨x, y⟩, (delegationJob c v₁).2) := by
  have hepochs : Pipelines.standard.epochJob c { v with cache := {} } = (.ok x, v₁) := h
  rw [Pipelines.both_apply, hepochs]
  rfl

theorem both_of_error {v v₁ : World L} {halt : Halt}
    (h : epochJob c (v.turned v.now) = (.error halt, v₁)) :
    Pipelines.standard.both c v = (.error halt, v₁) := by
  have hepochs : Pipelines.standard.epochJob c { v with cache := {} } = (.error halt, v₁) := h
  rw [Pipelines.both_apply, hepochs]
  rfl

/-- Both syncs in one run come to what they come to in runs of their own, if either of them is
granted its lease in both cases or in none. -/
theorem both_joins {v u : World L} {epochsGranted delegationsGranted : Bool}
    (hw : Twins f Eq (v.turned v.now) u) (hcharted : v.store.Charted) (hf : f.ListsOnce c)
    (hepochs : (tryAcquire Job.epochSync.name c.epochLease (v.turned v.now)).1 =
      .ok epochsGranted)
    (hepochs' : (tryAcquire Job.epochSync.name c.epochLease u).1 = .ok epochsGranted)
    (hdelegations : (tryAcquire Job.delegationSync.name c.delegationLease
      (epochJob c (v.turned v.now)).2).1 = .ok delegationsGranted)
    (hdelegations' : (tryAcquire Job.delegationSync.name c.delegationLease
      ((epochJob c u).2.turned t₂)).1 = .ok delegationsGranted) :
    PartsJoin f (Pipelines.standard.both c v) (epochJob c u)
      (delegationJob c ((epochJob c u).2.turned t₂)) := by
  obtain ⟨hsame, htwins⟩ := epochJob_twins hw hepochs hepochs'
  have hrecalls := epochJob_recalls hf ⟨hw.left, hcharted, f.recalls_empty c v.store⟩ hepochs
  rcases hrun' : epochJob c u with ⟨r', u₁⟩
  rcases hrun : epochJob c (v.turned v.now) with ⟨halt | x, v₁⟩ <;>
    rw [hrun, hrun'] at hsame htwins <;> rw [hrun] at hrecalls hdelegations <;>
    rw [hrun'] at hdelegations' <;> obtain rfl : r' = _ := hsame <;>
    dsimp only at hrecalls hdelegations hdelegations' htwins
  · have htip : Replies.halting (f.knownTip {}) = .error halt := by
      simpa using hrecalls
    have hdata := delegationJob_sameData (c := c) (w := u₁.turned t₂)
      (htwins.right.turned t₂) htip
    rw [both_of_error hrun]
    exact ⟨rfl, htwins.left, trans_of Alike htwins.alike (.of_sameData hdata)⟩
  · have hrecalling : v₁.Recalling f c := by
      simpa using hrecalls
    have hobserved := (htwins.alike.observed f c {}).trans hrecalling.recalls.observed.symm
    have hforgot : Twins f (fun _ _ => True) v₁ (u₁.turned t₂) :=
      ⟨htwins.left, htwins.right.turned t₂, htwins.alike, trivial⟩
    obtain ⟨hresult, hbehind⟩ :=
      delegationJob_twins hforgot hobserved hdelegations hdelegations'
    rw [both_of_ok hrun]
    refine ⟨?_, hbehind.left, hbehind.alike⟩
    dsimp only [Except.bind]
    rw [hresult]

section

variable (hlease : c.epochLease.add? c.delegationLease = some lease)
  (hfree : (tryAcquire Job.fullSync.name lease).affirms w = true)
include hlease hfree

omit [LedgerService L] in
theorem parts_decide (hw : w.Faultless) :
    (∃ granted, (tryAcquire Job.epochSync.name c.epochLease w).1 = .ok granted) ∧
      ∃ granted, (tryAcquire Job.delegationSync.name c.delegationLease w).1 = .ok granted := by
  have hgrants := (tryAcquire_held Job.fullSync.name lease w).1.symm.trans hfree
  have hends : (w.now.add? lease).isSome :=
    ((w.grants_iff _ _).mp (Bool.and_eq_true_iff.mp hgrants).2).2.1
  obtain ⟨hepochs, hdelegations⟩ := Timestamp.parts_end hlease hends
  exact ⟨tryAcquire_decides hw hepochs, tryAcquire_decides hw hdelegations⟩

variable (hw : w.Fixed f w.store w.cache) (hcharted : w.store.Charted) (hf : f.ListsOnce c)
  (hrenews : w.RenewsHeld)
  (h₁ : w.SameChance Job.epochSync.name c.epochLease t₁)
  (h₂ : w.SameChance Job.delegationSync.name c.delegationLease t₂)
include hw hcharted hf hrenews h₁ h₂

/-- The parts of a full sync that begins in a world come to what runs of their own come to, at
times at which they have the same chance. -/
theorem parts_join {v : World L} (hv : v.Fixed f w.store w.cache)
    (hbegins : ∀ job, Job.fullSync.name ≠ job → Elsewhere job w v) :
    PartsJoin f (Pipelines.standard.both c v) (epochJob c (w.turned t₁))
      (delegationJob c ((epochJob c (w.turned t₁)).2.turned t₂)) := by
  have htwins : Twins f Eq (v.turned v.now) (w.turned t₁) :=
    ⟨(hv.turned v.now).here, (hw.turned t₁).here, (Alike.of_sameData hv.data).symm, rfl⟩
  obtain ⟨⟨epochsGranted, hepochs⟩, delegationsGranted, hdelegations⟩ :=
    parts_decide hlease hfree hw.faultless
  have hnow {job : String} {lease : Duration} : w.SameChance job lease w.now := rfl
  have hbegins (job : String) (hjob : Job.fullSync.name ≠ job) : Elsewhere job w (v.turned v.now) :=
    trans_of (Elsewhere job) (hbegins job hjob) (.turned v v.now)
  have hepochs₁ := (hnow.elsewhere hw.faultless htwins.left.faultless hrenews
    (hbegins _ (by decide))).trans hepochs
  have hepochs₂ := (h₁.elsewhere hw.faultless htwins.right.faultless hrenews
    (.turned w t₁)).trans hepochs
  obtain ⟨-, hbehind⟩ := epochJob_twins htwins hepochs₁ hepochs₂
  have helsewhere : Elsewhere Job.delegationSync.name w (epochJob c (v.turned v.now)).2 :=
    trans_of (Elsewhere _) (hbegins _ (by decide)) (Elsewhere.epochJob (by decide) c _)
  have helsewhere' : Elsewhere Job.delegationSync.name (w.atTime t₁)
      (epochJob c (w.turned t₁)).2 :=
    trans_of (Elsewhere _) (.turned w t₁) (Elsewhere.epochJob (by decide) c _)
  have hdelegations₁ := (hnow.elsewhere hw.faultless hbehind.left.faultless hrenews
    helsewhere).trans hdelegations
  have hdelegations₂ := (h₂.elsewhere hw.faultless (hbehind.right.turned t₂).faultless hrenews
    (trans_of (Elsewhere _) (helsewhere'.atTime t₂) (.turned _ t₂))).trans hdelegations
  exact both_joins htwins (hcharted.sameData hv.data) hf hepochs₁ hepochs₂ hdelegations₁
    hdelegations₂

/-- A full sync joins runs of their own at times at which they have the same chance. -/
theorem jobs_join :
    let epochs := runEpochSync c (w.atTime t₁)
    Joins (runFullSync c w) epochs (runDelegationSync c (epochs.2.atTime t₂)) := by
  have hsteady : LeaseFrame Job.fullSync.name (World.Steady : World L → World L → Prop) :=
    World.Steady.leaseFrame _
  obtain ⟨hresult, hfixed, halike⟩ := parts_join hlease hfree hw hcharted hf hrenews h₁ h₂
    (hsteady.begun lease w _ _ _ hw) fun job hjob => (Elsewhere.leaseFrame hjob).begun lease w
  have hrun : (runFullSync c : Run L (JobRun FullReport)) =
      exclusive Job.fullSync.name lease (Pipelines.standard.both c) := by
    unfold runFullSync
    rw [hlease]
    rfl
  have hspares : Ends (Spares [Job.epochSync.name, Job.delegationSync.name])
      (Pipelines.standard.both c : Run L FullReport) := Pipelines.standard_undisturbed.both
  have hcomes := exclusive_comes hspares hfree hw.faultless.releases (by decide)
  have hsettled := hsteady.behind (Pipelines.standard.both c) hfree
  intro epochs
  apply Joins.of_result
  · rw [hrun]
    exact trans_of Alike (Alike.of_sameData (hsettled _ _ _ hfixed).data).symm halike
  · have hepochs : epochs = epochJob c (w.turned t₁) := rfl
    have hdelegations : runDelegationSync c (epochs.2.atTime t₂) =
        delegationJob c (epochs.2.turned t₂) := rfl
    rw [hrun, hcomes, hresult, hdelegations, hepochs]
    rcases epochJob c (w.turned t₁) with ⟨halt | x, u⟩
    · rfl
    · dsimp only [Except.bind]
      rcases delegationJob c (u.turned t₂) with ⟨halt | y, u⟩ <;> rfl

end

theorem runs_renew_held (c : Settings) :
    let Keeps (w w' : World L) := w.RenewsHeld → w'.RenewsHeld
    Ends Keeps (runEpochSync c) ∧ Ends Keeps (runDelegationSync c) ∧
      Ends Keeps (runFullSync c) := by
  have hforget (w : World L) : World.SameRenewals w { w with cache := {} } := ⟨rfl, rfl⟩
  have hepochs : Ends World.SameRenewals (epochJob c : Run L (JobRun EpochsReport)) :=
    exclusive_renewals fun w _ => (World.SameRenewals.frame _).syncEpochs c w
  have hdelegations :
      Ends World.SameRenewals (delegationJob c : Run L (JobRun DelegationsReport)) :=
    exclusive_renewals fun w _ => (World.SameRenewals.frame _).syncDelegations c w
  have hfull : Ends World.SameRenewals (runFullSync c : Run L (JobRun FullReport)) := by
    rw [← Pipelines.standard_runFullSync]
    unfold Pipelines.runFullSync
    split
    · exact fun w _ => refl_of World.SameRenewals w
    · exact exclusive_renewals (Pipelines.both_ends hforget hepochs hdelegations)
  exact ⟨fun w hends => (Ends.forgetting hforget hepochs w hends).renewsHeld,
    fun w hends => (Ends.forgetting hforget hdelegations w hends).renewsHeld,
    fun w hends => (hfull w hends).renewsHeld⟩

end Run

end GovernanceIndex
