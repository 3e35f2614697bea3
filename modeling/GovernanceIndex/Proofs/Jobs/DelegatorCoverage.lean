import GovernanceIndex.Proofs.Jobs.EpochUpkeep
import GovernanceIndex.Proofs.Sync.DelegatorSummaries

/-!
Delegator coverage. Whatever runs of the jobs came before, if the last step of an epoch is marked
then one of them marked it, and every stored row of the epoch with power has one summary, that of
the list of its delegators that was returned in that run. Summaries that earlier runs left when some
lookups failed were put over, and later runs leave what is stored for the epoch alone.
-/
namespace GovernanceIndex

open LedgerService (returned)
open Store (AlikeAt Orderly SameEpochs)
open World (CallFrame LeaseFrame Quiet SumsUp Upholds)

namespace World

variable {L : Type} [LedgerService L] {e : Epoch} {K : JobCache → Prop} {w w' w'' : World L}

theorem Quiet.leaseFrame (job : String) : LeaseFrame job (Quiet e : World L → World L → Prop) where
  acquire w _ := (Sends.call w _).quiet
  release w _ _ _ := (Sends.call w _).quiet
  hold w := (refl_of (Quiet e) w).congr rfl rfl rfl
  drop w := (refl_of (Quiet e) w).congr rfl rfl rfl
  tend w _ := (refl_of (Quiet e) w).congr rfl rfl rfl
  rest w := (refl_of (Quiet e) w).congr rfl rfl rfl

/-- Between two worlds an epoch was left alone: its delegators were not sought, what is stored for
it is the same, it is upheld, and what is remembered keeps a property. -/
structure LeavesAlone (K : JobCache → Prop) (e : Epoch) (w w' : World L) : Prop where
  quiet : Quiet e w w'
  alike : AlikeAt e w.store w'.store
  upheld : Upholds e w w'
  cache : K w.cache → K w'.cache

instance : IsPreorder (World L) (LeavesAlone K e) where
  refl w := ⟨refl_of (Quiet e) w, refl_of (AlikeAt e) w.store, refl_of (Upholds e) w, id⟩
  trans _ _ _ h h' := ⟨trans_of (Quiet e) h.quiet h'.quiet, trans_of (AlikeAt e) h.alike h'.alike,
    trans_of (Upholds e) h.upheld h'.upheld, fun hk => h'.cache (h.cache hk)⟩

theorem LeavesAlone.leaseFrame (job : String) :
    LeaseFrame job (LeavesAlone K e : World L → World L → Prop) :=
  have hquiet : LeaseFrame job (Quiet e : World L → World L → Prop) := Quiet.leaseFrame job
  have halike : LeaseFrame job (Run.OnStore (AlikeAt e) : World L → World L → Prop) :=
    CallFrame.onStore.leaseFrame (fun _ _ => AlikeAt.of_sameData) job
  have hupheld : LeaseFrame job (Upholds e : World L → World L → Prop) := Upholds.leaseFrame job
  { acquire w lease := ⟨hquiet.acquire w lease, halike.acquire w lease, hupheld.acquire w lease,
      fun hk => (w.call_frame _).2.1 ▸ hk⟩
    release w result items errorMessage := ⟨hquiet.release w result items errorMessage,
      halike.release w result items errorMessage, hupheld.release w result items errorMessage,
      fun hk => (w.call_frame _).2.1 ▸ hk⟩
    hold w := ⟨hquiet.hold w, halike.hold w, hupheld.hold w, id⟩
    drop w := ⟨hquiet.drop w, halike.drop w, hupheld.drop w, id⟩
    tend w lease := ⟨hquiet.tend w lease, halike.tend w lease, hupheld.tend w lease, id⟩
    rest w := ⟨hquiet.rest w, halike.rest w, hupheld.rest w, id⟩ }

/-- If the last step of an epoch was marked on the way from one world to another, the epoch was
summed up on it. -/
def Covers (K : JobCache → Prop) (e : Epoch) (w w' : World L) : Prop :=
  K w.cache → w.Faultless ∧ w.store.Orderly → w.store.syncedAt e .delegators = none →
    (w'.store.syncedAt e .delegators).isSome → SumsUp e w w'

theorem Covers.of_alike (h : AlikeAt e w.store w'.store) : Covers K e w w' := by
  intro _ _ hunmarked hmarked
  rw [h.syncedAt, hunmarked] at hmarked
  cases hmarked

theorem LeavesAlone.covers (h : LeavesAlone K e w w') (h' : Covers K e w' w'') :
    Covers K e w w'' := by
  intro hk hw hunmarked hmarked
  have hunmarked' : w'.store.syncedAt e .delegators = none :=
    (h.alike.syncedAt _).trans hunmarked
  exact h.quiet.sumsUp (h' (h.cache hk) (h.upheld hw).1 hunmarked' hmarked)

theorem Covers.behind (h : Covers K e w w') (hquiet : Quiet e w' w'')
    (halike : AlikeAt e w'.store w''.store) : Covers K e w w'' := by
  intro hk hw hunmarked hmarked
  have hmarked' : (w'.store.syncedAt e .delegators).isSome := halike.syncedAt _ ▸ hmarked
  exact (h hk hw hunmarked hmarked').quiet hquiet halike.snapshots halike.summaries

end World

open World (Covers LeavesAlone)

namespace Run

variable {L α : Type} [LedgerService L] {e epoch : Epoch} {K : JobCache → Prop}

def Forgotten (e : Epoch) (k : JobCache) : Prop := k.inventories.get? e = none

theorem leaveEpoch (c : Settings) (hother : epoch ≠ e) :
    Shifts (LeavesAlone (Forgotten e) e) (syncEpoch c epoch : Run L EpochReport) := by
  intro w
  obtain ⟨hquiet, hforgotten⟩ := quietEpoch c hother w
  exact ⟨hquiet, syncEpoch_alikeAt c hother.symm w, upholdEpoch c epoch w, hforgotten⟩

theorem leavePlan (c : Settings) :
    Shifts (LeavesAlone (Forgotten e) e) (planEpochs c : Run L (EpochsReport × List Epoch)) := by
  intro w
  have hpasses := Passes.planEpochs c w
  exact ⟨quietPlan c w, .of_sameData hpasses.data, World.Upholds.reading.planEpochs c w,
    fun hforgotten => (congrArg (Table.get? · e) hpasses.inventories).trans hforgotten⟩

theorem coverEpoch (c : Settings) :
    Shifts (Covers (Forgotten e) e) (syncEpoch c e : Run L EpochReport) :=
  fun _ hforgotten hw => sumUpEpoch c hw.2.charted hw.2.tallied hforgotten

theorem coverEach (c : Settings) (report : EpochsReport) {epochs : List Epoch}
    (hnodup : epochs.Nodup) :
    Shifts (Covers (Forgotten e) e) (syncEach c report epochs : Run L EpochsReport) := by
  induction epochs generalizing report with
  | nil => exact fun w => .of_alike (refl_of (AlikeAt e) w.store)
  | cons epoch rest ih =>
    obtain ⟨hfresh, hnodup⟩ := List.nodup_cons.mp hnodup
    unfold syncEach
    -- The epoch is planned once: what is synced behind it, and before it, leaves it alone.
    rcases eq_or_ne epoch e with rfl | hother
    · refine Shifts.through (coverEpoch c).attempt (S := LeavesAlone (Forgotten epoch) epoch)
        (fun r => ?_) id fun h h' => h.behind h'.quiet h'.alike
      have hrest (report : EpochsReport) := shiftEach (L := L) c report rest fun d hd =>
        leaveEpoch (e := epoch) c (ne_of_mem_of_not_mem hd hfresh)
      rcases r with cause | _ <;> exact hrest _
    · refine Shifts.through (leaveEpoch c hother).attempt (fun r => ?_) (fun h => .of_alike h.alike)
        LeavesAlone.covers
      rcases r with cause | _ <;> exact ih _ hnodup

theorem coverEpochs (c : Settings) :
    Shifts (Covers (Forgotten e) e) (syncEpochs c : Run L EpochsReport) := by
  intro w
  have hplan := leavePlan (e := e) c w
  unfold syncEpochs
  rw [bind_apply]
  rcases hr : planEpochs c w with ⟨halt | ⟨report, epochs⟩, v⟩ <;> rw [hr] at hplan
  · exact .of_alike hplan.alike
  · exact hplan.covers (coverEach c report (planEpochs_nodup c w _ v hr) v)

theorem coverExclusive [JobReport α] {job : String} {lease : Duration} {work : Run L α}
    (hwork : Shifts (Covers K e) work) : Shifts (Covers K e) (exclusive job lease work) := by
  have hframe : World.LeaseFrame job (LeavesAlone K e : World L → World L → Prop) :=
    LeavesAlone.leaseFrame job
  intro w
  rcases haffirms : (tryAcquire job lease).affirms w with _ | _
  · exact .of_alike (hframe.refused work haffirms).alike
  · have hbehind := hframe.behind work haffirms
    exact (hframe.begun lease w).covers ((hwork _).behind hbehind.quiet hbehind.alike)

theorem coverForgetting {work : Run L α} (hwork : Shifts (Covers (Forgotten e) e) work) :
    Shifts (Covers (fun _ => True) e) (forgetting work) := by
  intro w _ hw hunmarked hmarked
  have hquiet : World.Quiet e w { w with cache := {} } :=
    (refl_of (World.Quiet e) w).congr rfl rfl rfl
  exact hquiet.sumsUp (hwork { w with cache := {} } rfl hw hunmarked hmarked)

theorem syncDelegations_sameEpochs (c : Settings) :
    Moves SameEpochs (syncDelegations c : Run L DelegationsReport) :=
  (CallFrame.onStore.frame SameEpochs.of_sameData SameEpochs.of_perform).syncDelegations c

theorem delegationJob_sameEpochs (c : Settings) :
    Moves SameEpochs (delegationJob c : Run L (JobRun DelegationsReport)) :=
  (CallFrame.onStore.leaseFrame SameEpochs.of_sameData _).exclusive (syncDelegations_sameEpochs c)

/-- In a full sync the sync of delegations follows, which asks for the current delegators only. -/
theorem coverFullSync (c : Settings) :
    Shifts (Covers (fun _ => True) e) (runFullSync c : Run L (JobRun FullReport)) := by
  have hquiet (epochs : JobRun EpochsReport) : Shifts (World.Quiet e) (do
      let delegations ← delegationJob c
      return { epochs, delegations } : Run L FullReport) :=
    Shifts.bind ((World.Quiet.leaseFrame _).exclusive (quietDelegations c)) fun _ => Shifts.pure _
  have hsame (epochs : JobRun EpochsReport) : Moves SameEpochs (do
      let delegations ← delegationJob c
      return { epochs, delegations } : Run L FullReport) :=
    Moves.bind (delegationJob_sameEpochs c) fun _ => Moves.pure _
  unfold runFullSync
  split
  · exact fun w => .of_alike (refl_of (AlikeAt e) w.store)
  · apply coverExclusive
    apply coverForgetting
    exact Shifts.through (coverExclusive (coverEpochs c))
      (S := fun w w' => World.Quiet e w w' ∧ SameEpochs w.store w'.store)
      (fun epochs w => ⟨hquiet epochs w, hsame epochs w⟩) id
      fun h h' => h.behind h'.1 (h'.2.alikeAt e)

end Run

/-- A job that marks the last step of an epoch summed the epoch up. -/
theorem World.Covers.after {L : Type} [LedgerService L] {e : Epoch} (w : World L) (c : Settings)
    (job : Job) : Covers (fun _ => True) e w (w.after c job) := by
  cases job with
  | epochSync => exact Run.coverForgetting (Run.coverExclusive (Run.coverEpochs c)) w
  | delegationSync =>
    have hsame := Run.delegationJob_sameEpochs c { w with cache := {} }
    exact .of_alike (hsame.alikeAt e)
  | fullSync => exact Run.coverFullSync c w

/-- A call of a job: which one it is, its settings, and the world apart from the store that its
worker meets. -/
structure JobCall (L : Type) where
  job : Job
  settings : Settings
  world : World L

namespace JobCall

variable {L : Type} [LedgerService L] {e : Epoch} {s : Store}

/-- The world in which a call starts from a store. -/
def start (k : JobCall L) (s : Store) : World L := k.world.withStore s

def finish (k : JobCall L) (s : Store) : World L := (k.start s).after k.settings k.job

def runAll (ks : List (JobCall L)) (s : Store) : Store := ks.foldl (fun s k => (k.finish s).store) s

def Marks (k : JobCall L) (s : Store) (e : Epoch) : Prop :=
  s.syncedAt e .delegators = none ∧ ((k.finish s).store.syncedAt e .delegators).isSome

/-- Calls without faults keep a store orderly, and what is stored for an epoch whose last step is
marked. -/
theorem runAll_upholds (ks : List (JobCall L)) (hfaultless : ∀ k ∈ ks, k.world.Faultless)
    (hs : s.Orderly) : (runAll ks s).Orderly ∧
      ((s.syncedAt e .delegators).isSome → AlikeAt e s (runAll ks s)) := by
  induction ks generalizing s with
  | nil => exact ⟨hs, fun _ => refl_of (AlikeAt e) s⟩
  | cons k ks ih =>
    obtain ⟨hfirst, hothers⟩ := List.forall_mem_cons.mp hfaultless
    obtain ⟨⟨-, hs'⟩, hkept⟩ := Upholds.after (e := e) (k.start s) k.settings k.job ⟨hfirst, hs⟩
    obtain ⟨hrest, hkept'⟩ := ih hothers hs'
    refine ⟨hrest, fun hmarked => ?_⟩
    have hunchanged : AlikeAt e s (k.finish s).store := hkept hmarked
    exact trans_of (AlikeAt e) hunchanged (hkept' (hunchanged.syncedAt _ ▸ hmarked))

/-- If the last step of an epoch is marked behind calls, one of them marked it, and behind all of
them the epoch is summed up along the requests that this one sent. -/
theorem exists_marks (ks : List (JobCall L)) (hfaultless : ∀ k ∈ ks, k.world.Faultless)
    (hs : s.Orderly) (hunmarked : s.syncedAt e .delegators = none)
    (hmarked : ((runAll ks s).syncedAt e .delegators).isSome) :
    ∃ before k after, ks = before ++ k :: after ∧ k.Marks (runAll before s) e ∧
      ∃ qs, (k.start (runAll before s)).Sends qs (k.finish (runAll before s)) ∧
        (runAll ks s).SummedUp e k.world.ledger qs := by
  -- The first call that marks the step is the one; behind it the epoch is upheld.
  induction ks generalizing s with
  | nil => exact nomatch hunmarked ▸ hmarked
  | cons k ks ih =>
    obtain ⟨hfirst, hothers⟩ := List.forall_mem_cons.mp hfaultless
    obtain ⟨⟨-, hs'⟩, -⟩ := Upholds.after (e := e) (k.start s) k.settings k.job ⟨hfirst, hs⟩
    rcases hmark : (k.finish s).store.syncedAt e .delegators with _ | t
    · obtain ⟨before, k', after, rfl, hmarks⟩ := ih hothers hs' hmark hmarked
      exact ⟨k :: before, k', after, rfl, hmarks⟩
    · have hmark' : ((k.finish s).store.syncedAt e .delegators).isSome := hmark ▸ rfl
      obtain ⟨qs, hsends, hsummed⟩ :=
        World.Covers.after (k.start s) k.settings k.job trivial ⟨hfirst, hs⟩ hunmarked hmark'
      have hkept : AlikeAt e (k.finish s).store (runAll (k :: ks) s) :=
        (runAll_upholds ks hothers hs').2 hmark'
      refine ⟨[], k, ks, rfl, ⟨hunmarked, hmark'⟩, qs, hsends, fun r hr hpower => ?_⟩
      rw [hkept.snapshots] at hr
      rw [hkept.summaries]
      exact hsummed r hr hpower

/-- However often runs of the jobs failed before: if the last step of an epoch is marked, one call
marked it, and every stored row of the epoch with power has one summary, whose count and amount are
those of the list of its delegators that was returned in that call. -/
theorem delegators_covered (ks : List (JobCall L)) (hfaultless : ∀ k ∈ ks, k.world.Faultless)
    (e : Epoch) (hmarked : ((runAll ks {}).syncedAt e .delegators).isSome) :
    ∃ before k after, ks = before ++ k :: after ∧ k.Marks (runAll before {}) e ∧
      ∃ qs, (k.start (runAll before {})).Sends qs (k.finish (runAll before {})) ∧
        ∀ r ∈ (runAll ks {}).snapshotsOf e, r.votingPower ≠ 0 →
          let rows := returned r.delegate (some e) k.world.ledger qs
          ∃ x, ((runAll ks {}).summariesOf e).filter (fun y => y.delegate = r.delegate) = [x] ∧
            x.count = UInt64.ofNat rows.length ∧ x.amount = (rows.map fun d => d.amount).sum := by
  obtain ⟨before, k, after, hks, hmarks, qs, hsends, hsummed⟩ :=
    exists_marks ks hfaultless .empty rfl hmarked
  refine ⟨before, k, after, hks, hmarks, qs, hsends, fun r hr hpower => ?_⟩
  intro rows
  refine ⟨_, hsummed r hr hpower, rfl, ?_⟩
  rw [List.sum_eq_foldl, List.foldl_map]
  rfl

def coveredDelegate : DelegateId := ⟨"drep1covered", by decide⟩

/-- A sync of the epochs up to a tip that has two delegators of one delegate to look up, one on each
page; the first request for them is refused. -/
def refused : JobCall SimulatedLedger where
  job := .epochSync
  settings := { includeDelegators := true, backfillFrom := ⟨7⟩, pageSize := 1 }
  world :=
    { ledger :=
        { tip := some ⟨8⟩
          delegates := ⟨[(coveredDelegate, ⟨coveredDelegate, true, true⟩)]⟩
          delegatePower := ⟨[((⟨7⟩, coveredDelegate), 5)]⟩
          epochDelegators := ⟨[((⟨7⟩, coveredDelegate),
            [⟨⟨"stake1first", by decide⟩, 3⟩, ⟨⟨"stake1second", by decide⟩, 4⟩])]⟩
          queuedFailures := ⟨[(.drepDelegators, [.client 404 ""])]⟩ }
      worker := { id := ⟨"w1covers", by decide⟩ }
      now := ⟨5, 0⟩ }

/-- A later full sync against the same service, which refuses nothing more. -/
def caughtUp : JobCall SimulatedLedger where
  job := .fullSync
  settings := refused.settings
  world :=
    { refused.world with
      ledger := { refused.world.ledger with queuedFailures := {} }
      now := ⟨9, 0⟩ }

/-- A call in which a lookup was refused marks the steps before the last one. The next call marks
the last one, with the two delegators that it was returned. -/
theorem delegators_covered_caught_up :
    let ks := [refused, caughtUp]
    let s := runAll [refused] {}
    (∀ k ∈ ks, k.world.Faultless) ∧ (s.syncedAt ⟨7⟩ .totals).isSome ∧ caughtUp.Marks s ⟨7⟩ ∧
      (runAll ks {}).summariesOf ⟨7⟩ = [⟨⟨7⟩, coveredDelegate, 2, 7⟩] ∧
      ∃ qs, (caughtUp.start s).Sends qs (caughtUp.finish s) ∧
        let rows := returned coveredDelegate (some ⟨7⟩) caughtUp.world.ledger qs
        UInt64.ofNat rows.length = 2 ∧ (rows.map fun d => d.amount).sum = 7 := by
  intro ks s
  have hfaultless : ∀ k ∈ ks, k.world.Faultless := by
    intro k hk
    rcases List.mem_pair.mp hk with rfl | rfl <;> exact nofun
  have hunmarked : s.syncedAt ⟨7⟩ .delegators = none := by decide +kernel
  have hmarked : ((runAll ks {}).syncedAt ⟨7⟩ .delegators).isSome := by decide +kernel
  have hrows : (runAll ks {}).snapshotsOf ⟨7⟩ = [⟨⟨7⟩, coveredDelegate, true, true, 5⟩] := by
    decide +kernel
  have hsummaries : (runAll ks {}).summariesOf ⟨7⟩ = [⟨⟨7⟩, coveredDelegate, 2, 7⟩] := by
    decide +kernel
  refine ⟨hfaultless, by decide +kernel, ⟨hunmarked, hmarked⟩, hsummaries, ?_⟩
  obtain ⟨before, k, after, hks, hmarks, qs, hsends, hcovered⟩ :=
    delegators_covered ks hfaultless ⟨7⟩ hmarked
  have hlast : before = [refused] ∧ k = caughtUp := by
    rcases before with _ | ⟨first, _ | ⟨second, rest⟩⟩
    · obtain ⟨rfl, -⟩ := List.cons.inj hks
      exact nomatch hunmarked ▸ hmarks.2
    · obtain ⟨rfl, htail⟩ := List.cons.inj hks
      exact ⟨rfl, (List.cons.inj htail).1.symm⟩
    · simp [ks] at hks
  obtain ⟨rfl, rfl⟩ := hlast
  obtain ⟨x, hx, hcount, hamount⟩ := hcovered _ (hrows ▸ List.mem_singleton_self _) (by decide)
  rw [hsummaries] at hx
  obtain rfl : ⟨⟨7⟩, coveredDelegate, 2, 7⟩ = x := List.head_eq_of_cons_eq hx
  exact ⟨qs, hsends, hcount.symm, hamount.symm⟩

end JobCall

end GovernanceIndex
