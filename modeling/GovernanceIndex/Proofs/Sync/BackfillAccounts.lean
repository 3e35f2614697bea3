import GovernanceIndex.Proofs.Sync.Backlog

/-!
What a sync of the incomplete epochs reports and what it leaves alone. It takes up the oldest of the
incomplete epochs before the tip, as many as its bound allows, and attempts each of them once. An
epoch that is reported as synced is complete behind the sync and one that is reported as failed is
not; every epoch that was not taken up has the checkpoint and the rows that it had.
-/
namespace GovernanceIndex

open Store (Reaches SameData Works)

namespace Epoch

theorem range_strictMono (first last : Epoch) :
    (range first last).Pairwise fun a b => a.toNat < b.toNat := by
  unfold range
  rw [List.pairwise_map]
  apply (List.pairwise_lt_range' (s := first.toNat)).imp_of_mem
  intro m n hm hn hlt
  rw [List.mem_range'_1] at hm hn
  rw [toNat_ofNat (e := last) (by omega), toNat_ofNat (e := last) (by omega)]
  exact hlt

theorem range_eq_nil {first last : Epoch} (h : last.toNat < first.toNat) :
    range first last = [] := by
  rw [List.eq_nil_iff_forall_not_mem]
  intro e he
  obtain ⟨hfirst, hlast⟩ := bounds_of_mem_range he
  omega

def before (first tip : Epoch) : List Epoch :=
  match tip.prev? with
  | none => []
  | some last => range first last

theorem length_before (first tip : Epoch) :
    (before first tip).length = tip.toNat - first.toNat := by
  unfold before prev?
  by_cases htip : tip.toNat = 0
  · rw [if_pos htip, htip, Nat.zero_sub]
    rfl
  · rw [if_neg htip]
    unfold range
    dsimp only
    rw [List.length_map, List.length_range', toNat_ofNat (e := tip) (Nat.sub_le _ _)]
    omega

theorem before_strictMono (first tip : Epoch) :
    (before first tip).Pairwise fun a b => a.toNat < b.toNat := by
  unfold before
  split
  · exact List.Pairwise.nil
  · exact range_strictMono first _

end Epoch

/-- The incomplete epochs that are taken up, the oldest ones: all of them if there is no bound, and
one if the bound is zero. -/
def Settings.takeUp (c : Settings) (incomplete : List Epoch) : List Epoch :=
  match c.maxEpochsPerRun with
  | none => incomplete
  | some bound => incomplete.take (max bound 1)

theorem Settings.takeUp_sublist (c : Settings) (incomplete : List Epoch) :
    (c.takeUp incomplete).Sublist incomplete := by
  unfold takeUp
  split
  · exact List.Sublist.refl _
  · exact List.take_sublist _ _

namespace Store

variable {s s' s'' : Store} {c : Settings} {e : Epoch}

def incomplete (c : Settings) (s : Store) (tip : Epoch) : List Epoch :=
  (Epoch.before c.backfillFrom tip).filter fun e => !s.isComplete c e

theorem length_before (s : Store) (c : Settings) (tip : Epoch) :
    (Epoch.before c.backfillFrom tip).length =
      (Epoch.before c.backfillFrom tip).countP (s.isComplete c) + (s.incomplete c tip).length := by
  rw [List.countP_eq_length_filter]
  exact List.length_eq_length_filter_add _

/-- The epochs that are taken up are incomplete, each taken up once and the oldest first. -/
theorem takeUp_incomplete (c : Settings) (s : Store) (tip : Epoch) :
    ((c.takeUp (s.incomplete c tip)).Pairwise fun a b => a.toNat < b.toNat) ∧
      ∀ e ∈ c.takeUp (s.incomplete c tip), s.isComplete c e = false := by
  have htaken : (c.takeUp (s.incomplete c tip)).Sublist (s.incomplete c tip) := c.takeUp_sublist _
  refine ⟨?_, fun e he => ?_⟩
  · exact ((Epoch.before_strictMono c.backfillFrom tip).sublist List.filter_sublist).sublist htaken
  · simpa using (List.mem_filter.mp (htaken.subset he)).2

structure AlikeAt (e : Epoch) (s s' : Store) : Prop where
  checkpoint : s'.checkpoints.get? e = s.checkpoints.get? e
  snapshots : s'.snapshotsOf e = s.snapshotsOf e
  totals : s'.totals.get? e = s.totals.get? e
  summaries : s'.summariesOf e = s.summariesOf e

namespace AlikeAt

instance (e : Epoch) : IsPreorder Store (AlikeAt e) where
  refl _ := ⟨rfl, rfl, rfl, rfl⟩
  trans _ _ _ h h' := ⟨h'.checkpoint.trans h.checkpoint, h'.snapshots.trans h.snapshots,
    h'.totals.trans h.totals, h'.summaries.trans h.summaries⟩

theorem of_sameData (h : SameData s s') : AlikeAt e s s' :=
  ⟨h.eq fun s => s.checkpoints.get? e, h.eq fun s => s.snapshotsOf e,
    h.eq fun s => s.totals.get? e, h.eq fun s => s.summariesOf e⟩

theorem of_works {d : Epoch} {step : EpochStep} (h : Works d step s s') (hne : e ≠ d) :
    AlikeAt e s s' := by
  have hrows (q : EpochStep) : s'.stepRows e q = s.stepRows e q := h.rows e q fun heq => hne heq.1
  exact ⟨by rw [h.marks], StepRows.delegates.inj (hrows .dreps),
    StepRows.totals.inj (hrows .totals), StepRows.summaries.inj (hrows .delegators)⟩

theorem markStep {d : Epoch} (s : Store) (step : EpochStep) (now : Timestamp) (hne : e ≠ d) :
    AlikeAt e s (s.markStep d step now) := by
  refine ⟨?_, rfl, rfl, rfl⟩
  unfold Store.markStep
  rw [Table.get?_insert, if_neg hne]

theorem isComplete (h : AlikeAt e s s') : s'.isComplete c e = s.isComplete c e := by
  unfold Store.isComplete
  rw [h.checkpoint]

theorem syncedAt (h : AlikeAt e s s') (step : EpochStep) :
    s'.syncedAt e step = s.syncedAt e step := by
  unfold Store.syncedAt
  rw [h.checkpoint]

end AlikeAt

theorem Keyed.plan_eq (h : s.Keyed) (c : Settings) (last : Epoch) :
    let complete := ((s.checkpointsBetween c.backfillFrom last).filter fun p =>
      p.isComplete c.includeDelegators).map fun p => p.epoch
    EpochPlan.make (Epoch.range c.backfillFrom last) complete.contains c.maxEpochsPerRun =
      ⟨(Epoch.range c.backfillFrom last).countP (s.isComplete c), c.takeUp (s.backlog c last),
        (s.backlog c last).length - (c.takeUp (s.backlog c last)).length⟩ := by
  intro complete
  have hopen : ((Epoch.range c.backfillFrom last).filter fun e => !complete.contains e) =
      s.backlog c last := by
    refine List.filter_congr fun e he => ?_
    rw [h.contains_complete he]
  have hcount : (Epoch.range c.backfillFrom last).countP complete.contains =
      (Epoch.range c.backfillFrom last).countP (s.isComplete c) := by
    refine List.countP_congr fun e he => ?_
    rw [h.contains_complete he]
  unfold EpochPlan.make
  rw [hopen, hcount]
  unfold Settings.takeUp
  rcases c.maxEpochsPerRun with _ | bound <;> rfl

end Store

open Store (AlikeAt)

/-- A report accounts for every epoch before the tip, given the stores before and behind it. -/
structure EpochsReport.Accounts (c : Settings) (s s' : Store) (r : EpochsReport) : Prop where
  scanned : r.scanned = r.tip.toNat - c.backfillFrom.toNat
  alreadyComplete :
    r.alreadyComplete = (Epoch.before c.backfillFrom r.tip).countP (s.isComplete c)
  total : r.scanned = r.alreadyComplete + r.synced.length + r.failed.length + r.deferred
  taken : (r.synced ++ r.failed.map Prod.fst).Perm (c.takeUp (s.incomplete c r.tip))
  syncedRising : r.synced.Pairwise fun a b => a.toNat < b.toNat
  failedRising : (r.failed.map Prod.fst).Pairwise fun a b => a.toNat < b.toNat
  complete : ∀ e ∈ r.synced, s'.isComplete c e
  stillOpen : ∀ x ∈ r.failed, ¬ s'.isComplete c x.1
  untouched : ∀ e ∉ c.takeUp (s.incomplete c r.tip), s.AlikeAt e s'

namespace Run

variable {L : Type} [LedgerService L] {c : Settings} {epoch : Epoch} {w w' : World L}

theorem syncEpoch_alikeAt {e : Epoch} (c : Settings) (hne : e ≠ epoch) :
    Moves (AlikeAt e) (syncEpoch c epoch : Run L EpochReport) := by
  apply Moves.bind ((Reads.checkpoint epoch).moves fun _ _ => AlikeAt.of_sameData (e := e))
  intro p
  refine Moves.bind ?_ fun _ => Moves.pure _
  apply runSteps_moves
  · exact fun step _ s s' hworks => AlikeAt.of_works hworks hne
  · exact fun step _ s now => AlikeAt.markStep s step now hne

/-- A step that halts was due, and is not marked by what follows up to the halt. -/
theorem HaltsIn.not_isComplete {step : EpochStep} {halt : Halt} (h : HaltsIn c epoch step w)
    (hr : syncEpoch c epoch w = (.error halt, w')) : ¬ w'.store.isComplete c epoch := by
  obtain ⟨halt₁, v, hsync, hsame⟩ := h.sameFrom
  obtain rfl : v = w' := congrArg Prod.snd (hsync.symm.trans hr)
  obtain ⟨p, w₁, ran, w₂, halt₂, w₃, hread, -, hstep⟩ := h
  have hwants : c.wants p step := by
    by_contra hunwanted
    unfold runStep at hstep
    rw [if_neg hunwanted] at hstep
    cases hstep
  have hp : p.isDone step = (w.store.syncedAt epoch step).isSome := by
    rcases checkpoint_cases epoch w with ⟨p', hread', hp'⟩ | ⟨_, hread'⟩
    · obtain rfl : p' = p := Except.ok.inj (congrArg Prod.fst (hread'.symm.trans hread))
      exact hp' step
    · cases hread'.symm.trans hread
  obtain ⟨hunmarked, hwanted⟩ := (wants_iff hp).mp hwants
  intro hcomplete
  have hmarked := Store.isComplete_iff.mp hcomplete step hwanted
  rw [hsame.marks step List.mem_cons_self, hunmarked] at hmarked
  cases hmarked

theorem syncEpoch_halt_incomplete {halt : Halt} (hopen : ¬ w.store.isComplete c epoch)
    (hr : syncEpoch c epoch w = (.error halt, w')) : ¬ w'.store.isComplete c epoch := by
  rcases exists_haltsIn hr with hread | ⟨step, hhalts⟩
  · have hsame := (Reads.checkpoint epoch).moves (fun _ _ => AlikeAt.of_sameData (e := epoch)) w
    rw [hread] at hsame
    have hkept : w'.store.isComplete c epoch = w.store.isComplete c epoch := hsame.isComplete
    rwa [hkept]
  · exact hhalts.not_isComplete hr

/-- What the sync of an epoch came to when it was attempted. -/
abbrev EpochAttempt := Epoch × Except SyncError EpochReport

namespace EpochAttempt

def synced (xs : List EpochAttempt) : List Epoch := (xs.filter fun x => x.2.isOk).map Prod.fst

def failed (xs : List EpochAttempt) : List (Epoch × String) :=
  xs.filterMap fun x => match x.2 with
    | .ok _ => none
    | .error cause => some (x.1, cause.message)

variable {e : Epoch} {xs : List EpochAttempt}

@[simp]
theorem synced_ok (report : EpochReport) : synced ((e, .ok report) :: xs) = e :: synced xs := rfl

@[simp]
theorem synced_error (cause : SyncError) : synced ((e, .error cause) :: xs) = synced xs := rfl

@[simp]
theorem failed_ok (report : EpochReport) : failed ((e, .ok report) :: xs) = failed xs := rfl

@[simp]
theorem failed_error (cause : SyncError) :
    failed ((e, .error cause) :: xs) = (e, cause.message) :: failed xs := rfl

theorem failed_epochs (xs : List EpochAttempt) :
    (failed xs).map Prod.fst = (xs.filter fun x => !x.2.isOk).map Prod.fst := by
  induction xs with
  | nil => rfl
  | cons x xs ih =>
    rcases x with ⟨e, cause | report⟩
    · exact congrArg (e :: ·) ih
    · exact ih

theorem reported_perm (xs : List EpochAttempt) :
    (synced xs ++ (failed xs).map Prod.fst).Perm (xs.map Prod.fst) := by
  rw [failed_epochs, synced, ← List.map_append]
  exact (List.filter_append_perm _ xs).map Prod.fst

theorem mem_synced {e : Epoch} {xs : List EpochAttempt} :
    e ∈ synced xs ↔ ∃ x ∈ xs, x.2.isOk ∧ x.1 = e := by
  simp [synced, and_assoc]

theorem mem_failed {y : Epoch × String} {xs : List EpochAttempt} (h : y ∈ failed xs) :
    ∃ x ∈ xs, x.2.isOk = false ∧ x.1 = y.1 := by
  have hmem := List.mem_map_of_mem (f := Prod.fst) h
  rw [failed_epochs] at hmem
  simpa [and_assoc] using hmem

theorem synced_sublist (xs : List EpochAttempt) : (synced xs).Sublist (xs.map Prod.fst) :=
  List.filter_sublist.map Prod.fst

theorem failed_sublist (xs : List EpochAttempt) :
    ((failed xs).map Prod.fst).Sublist (xs.map Prod.fst) := by
  rw [failed_epochs]
  exact List.filter_sublist.map Prod.fst

end EpochAttempt

/-- Epochs are attempted in turn, from one world to another. -/
inductive Attempts (c : Settings) : List EpochAttempt → World L → World L → Prop
  | nil {w : World L} : Attempts c [] w w
  | cons {e : Epoch} {r : Except SyncError EpochReport} {rest : List EpochAttempt}
      {w w₁ w₂ : World L} (hfirst : attempt (syncEpoch c e) w = (.ok r, w₁))
      (hrest : Attempts c rest w₁ w₂) : Attempts c ((e, r) :: rest) w w₂

/-- A sync of epochs attempts them in turn and reports what it comes to. -/
theorem syncEach_attempts {report report' : EpochsReport} {epochs : List Epoch}
    (h : syncEach c report epochs w = (.ok report', w')) :
    ∃ xs : List EpochAttempt, xs.map Prod.fst = epochs ∧ Attempts c xs w w' ∧
      report' = { report with
        synced := report.synced ++ EpochAttempt.synced xs
        failed := report.failed ++ EpochAttempt.failed xs } := by
  induction epochs generalizing report w with
  | nil =>
    cases h
    exact ⟨[], rfl, .nil, by simp [EpochAttempt.synced, EpochAttempt.failed]⟩
  | cons e rest ih =>
    unfold syncEach at h
    obtain ⟨r, w₁, hfirst, hrest⟩ := exists_of_bind_ok h
    rcases r with cause | ended <;> obtain ⟨xs, rfl, hattempts, rfl⟩ := ih hrest
    · exact ⟨(e, .error cause) :: xs, rfl, .cons hfirst hattempts, by simp⟩
    · exact ⟨(e, .ok ended) :: xs, rfl, .cons hfirst hattempts, by simp⟩

theorem attempt_isComplete {r : Except SyncError EpochReport}
    (hopen : ¬ w.store.isComplete c epoch)
    (h : attempt (syncEpoch c epoch) w = (.ok r, w')) : w'.store.isComplete c epoch = r.isOk := by
  rw [attempt_apply] at h
  rcases hsync : syncEpoch c epoch w with ⟨(cause | _ | _) | report, v⟩ <;> rw [hsync] at h <;>
    cases h
  · exact Bool.eq_false_iff.mpr (syncEpoch_halt_incomplete hopen hsync)
  · exact (syncEpoch_completes c epoch).ok trivial hsync

namespace Attempts

variable {xs : List EpochAttempt}

theorem alikeAt {e : Epoch} (h : Attempts c xs w w') (he : e ∉ xs.map Prod.fst) :
    AlikeAt e w.store w'.store := by
  induction h with
  | nil => exact refl_of (AlikeAt e) _
  | @cons d _ _ w _ _ hfirst _ ih =>
    have hmoves := (syncEpoch_alikeAt (L := L) c (List.ne_of_not_mem_cons he)).attempt w
    rw [hfirst] at hmoves
    exact trans_of (AlikeAt e) hmoves (ih (List.not_mem_of_not_mem_cons he))

/-- Incomplete epochs that are attempted once each are complete in the end just if their syncs
ended. -/
theorem isComplete (h : Attempts c xs w w') (hnodup : (xs.map Prod.fst).Nodup)
    (hopen : ∀ e ∈ xs.map Prod.fst, ¬ w.store.isComplete c e) :
    ∀ x ∈ xs, w'.store.isComplete c x.1 = x.2.isOk := by
  induction h with
  | nil => exact nofun
  | @cons e r rest w w₁ w₂ hfirst hrest ih =>
    obtain ⟨hfresh, hnodup⟩ := List.nodup_cons.mp hnodup
    obtain ⟨hopen, hothers⟩ := List.forall_mem_cons.mp hopen
    -- The first attempt does not touch the other epochs, nor the others the first one.
    have hbehind : w₂.store.isComplete c e = w₁.store.isComplete c e :=
      (hrest.alikeAt hfresh).isComplete
    have hstill (d : Epoch) (hd : d ∈ rest.map Prod.fst) : ¬ w₁.store.isComplete c d := by
      have hne : d ≠ e := fun heq => hfresh (heq ▸ hd)
      have hmoves := (syncEpoch_alikeAt (L := L) c hne).attempt w
      rw [hfirst] at hmoves
      have hkept : w₁.store.isComplete c d = w.store.isComplete c d := hmoves.isComplete
      rw [hkept]
      exact hothers d hd
    exact List.forall_mem_cons.mpr
      ⟨hbehind.trans (attempt_isComplete hopen hfirst), ih hnodup hstill⟩

end Attempts

theorem planEpochs_accounts {report : EpochsReport} {epochs : List Epoch} (hs : w.store.Keyed)
    (h : planEpochs c w = (.ok (report, epochs), w')) :
    (knownTip c w).1 = .ok report.tip ∧ w.store.SameData w'.store ∧
      epochs = c.takeUp (w.store.incomplete c report.tip) ∧
      report =
        { tip := report.tip
          scanned := (Epoch.before c.backfillFrom report.tip).length
          alreadyComplete :=
            (Epoch.before c.backfillFrom report.tip).countP (w.store.isComplete c)
          deferred := (w.store.incomplete c report.tip).length - epochs.length } := by
  have hdata := (Reads.planEpochs c w).data
  rw [h] at hdata
  obtain ⟨tip, w₁, htip, hrest⟩ := exists_of_bind_ok h
  have hsame := (Passes.knownTip c w).data
  rw [htip] at hsame
  have hknown : (knownTip c w).1 = .ok tip := by rw [htip]
  -- With no epoch before the tip nothing is incomplete and nothing is taken up.
  have hnothing (hbefore : Epoch.before c.backfillFrom tip = []) :
      w.store.incomplete c tip = [] ∧ c.takeUp [] = [] := by
    unfold Store.incomplete Settings.takeUp
    rw [hbefore]
    exact ⟨rfl, by split <;> simp⟩
  rcases hprev : tip.prev? with _ | last <;> rw [hprev] at hrest <;> dsimp only at hrest
  · have hbefore : Epoch.before c.backfillFrom tip = [] := by rw [Epoch.before, hprev]
    obtain ⟨hopen, htakeUp⟩ := hnothing hbefore
    cases hrest
    exact ⟨hknown, hdata, by rw [hopen, htakeUp], by rw [hopen, hbefore]; rfl⟩
  · have hbefore : Epoch.before c.backfillFrom tip = Epoch.range c.backfillFrom last := by
      rw [Epoch.before, hprev]
    split at hrest
    · next hlate =>
      have hempty : Epoch.before c.backfillFrom tip = [] :=
        hbefore.trans (Epoch.range_eq_nil hlate)
      obtain ⟨hopen, htakeUp⟩ := hnothing hempty
      cases hrest
      exact ⟨hknown, hdata, by rw [hopen, htakeUp], by rw [hopen, hempty]; rfl⟩
    · obtain ⟨checkpoints, w₂, hread, hend⟩ := exists_of_bind_ok hrest
      have hstored : checkpoints = w.store.checkpointsBetween c.backfillFrom last :=
        (call_of_ok (fun _ => rfl) hread).1.trans
          (hsame.eq fun s => s.checkpointsBetween c.backfillFrom last)
      have hopen : w.store.incomplete c tip = w.store.backlog c last := by
        rw [Store.incomplete, hbefore, Store.backlog]
      have hplan := hs.plan_eq c last
      subst hstored
      cases hend
      dsimp only at hplan ⊢
      rw [hplan, hopen, hbefore]
      exact ⟨hknown, hdata, rfl, rfl⟩

/-- A sync of the incomplete epochs that ends accounts for every epoch before the tip that it found.
It attempts the epochs that it takes up one after the other, the oldest first. -/
theorem syncEpochs_accounts {report : EpochsReport} (hs : Reaches {} w.store)
    (h : syncEpochs c w = (.ok report, w')) :
    (knownTip c w).1 = .ok report.tip ∧ report.Accounts c w.store w'.store ∧
      ∃ (w₁ : World L) (xs : List EpochAttempt), w.store.SameData w₁.store ∧
        Attempts c xs w₁ w' ∧ xs.map Prod.fst = c.takeUp (w.store.incomplete c report.tip) ∧
        report.synced = EpochAttempt.synced xs ∧ report.failed = EpochAttempt.failed xs := by
  obtain ⟨⟨planned, epochs⟩, w₁, hplan, heach⟩ := exists_of_bind_ok h
  obtain ⟨htip, hsame, hepochs, hplanned⟩ := planEpochs_accounts hs.keyed hplan
  obtain ⟨xs, hxs, hattempts, rfl⟩ := syncEach_attempts heach
  have hsynced : planned.synced ++ EpochAttempt.synced xs = EpochAttempt.synced xs := by
    rw [hplanned, List.nil_append]
  have hfailed : planned.failed ++ EpochAttempt.failed xs = EpochAttempt.failed xs := by
    rw [hplanned, List.nil_append]
  rw [hsynced, hfailed]
  obtain ⟨hrising, hincomplete⟩ := w.store.takeUp_incomplete c planned.tip
  rw [← hepochs] at hrising hincomplete
  have hperm : (EpochAttempt.synced xs ++ (EpochAttempt.failed xs).map Prod.fst).Perm epochs :=
    hxs ▸ EpochAttempt.reported_perm xs
  -- The plan changes no data, so what it found is what the attempts start from.
  have hopen : ∀ e ∈ xs.map Prod.fst, ¬ w₁.store.isComplete c e := by
    intro e he
    rw [hxs] at he
    rw [hsame.eq fun s => s.isComplete c e, hincomplete e he]
    exact Bool.false_ne_true
  have hnodup : (xs.map Prod.fst).Nodup := by
    rw [hxs]
    exact hrising.imp fun hlt heq => absurd (heq ▸ hlt) (Nat.lt_irrefl _)
  have hcomplete := hattempts.isComplete hnodup hopen
  refine ⟨htip, ?_, w₁, xs, hsame, hattempts, hxs.trans hepochs, rfl, rfl⟩
  constructor
  case scanned => rw [hplanned, Epoch.length_before]
  case alreadyComplete => rw [hplanned]
  case total =>
    have hlength := hperm.length_eq
    rw [List.length_append, List.length_map] at hlength
    have hle := (c.takeUp_sublist (w.store.incomplete c planned.tip)).length_le
    rw [← hepochs] at hle
    have hsplit := w.store.length_before c planned.tip
    rw [hplanned] at hsplit ⊢
    dsimp only at hlength hsplit ⊢
    omega
  case taken => exact hepochs ▸ hperm
  case syncedRising => exact hrising.sublist (hxs ▸ EpochAttempt.synced_sublist xs)
  case failedRising => exact hrising.sublist (hxs ▸ EpochAttempt.failed_sublist xs)
  case complete =>
    intro e he
    obtain ⟨x, hx, hok, rfl⟩ := EpochAttempt.mem_synced.mp he
    exact (hcomplete x hx).trans hok
  case stillOpen =>
    intro y hy
    obtain ⟨x, hx, herror, hxy⟩ := EpochAttempt.mem_failed hy
    rw [← hxy, hcomplete x hx, herror]
    exact Bool.false_ne_true
  case untouched =>
    intro e he
    rw [← hepochs, ← hxs] at he
    exact trans_of (AlikeAt e) (AlikeAt.of_sameData hsame) (hattempts.alikeAt he)

/-- Of four epochs one is complete. Of the two that a sync takes up one is refused; the other one is
synced all the same, and the last one is left to a later sync. -/
theorem syncEpochs_accounts_past_refused :
    let k := EpochCall.refusing 2 ⟨4⟩ [⟨1⟩]
    let w := k.world.withStore ((EpochCall.refusing 1 ⟨4⟩ []).run {})
    let report : EpochsReport :=
      { tip := ⟨4⟩
        scanned := 4
        alreadyComplete := 1
        synced := [⟨2⟩]
        failed := [(⟨1⟩, "upstream rejected request 404: no")]
        deferred := 1 }
    Reaches {} w.store ∧ (syncEpochs k.settings w).1 = .ok report ∧
      report.Accounts k.settings w.store (syncEpochs k.settings w).2.store := by
  intro k w report
  have hs : Reaches {} w.store := EpochCall.run_reaches (EpochCall.refusing 1 ⟨4⟩ []) {}
  have hends : (syncEpochs k.settings w).1 = .ok report := by decide +kernel
  have h : syncEpochs k.settings w = (.ok report, (syncEpochs k.settings w).2) :=
    Prod.ext hends rfl
  obtain ⟨-, haccounts, -⟩ := syncEpochs_accounts hs h
  exact ⟨hs, hends, haccounts⟩

end Run

end GovernanceIndex
