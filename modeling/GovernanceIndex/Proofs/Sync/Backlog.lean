import GovernanceIndex.Ledger.Scripted
import GovernanceIndex.Proofs.Ledger.Answers
import GovernanceIndex.Proofs.Store.Backlog
import GovernanceIndex.Proofs.Sync.EpochRequests

/-!
Bounded syncs of the incomplete epochs, one after the other. Each takes up the first epochs of the
backlog, so it completes one that does not fail unless all that it takes up fail. Up to an epoch the
backlog is worked off if fewer epochs before it fail than one sync takes up; an epoch behind so many
that stay incomplete is never come to.
-/
namespace GovernanceIndex

open LedgerService (Answers Reacts)
open Store (Grows DifferIn SameData)

namespace Run

variable {L : Type} [LedgerService L]

theorem syncEpoch_completes (c : Settings) (epoch : Epoch) :
    Ensures (fun _ => True) (syncEpoch c epoch : Run L EpochReport)
      (fun _ s => s.isComplete c epoch) (fun _ => True) := by
  have hread := checkpoint_ensures (L := L) (fun _ => True) epoch
  apply Ensures.bind (hread.post fun _ _ h => h.2)
  intro p
  apply Ensures.bind (runSteps_marks c epoch p EpochStep.all)
  intro ran
  apply Ensures.pure
  intro s hs
  exact Store.isComplete_iff.mpr fun step => hs step (by cases step <;> decide)

end Run

/-- A service names a tip. -/
def NamesTip (tip : Epoch) : (q : Request) → q.Answer → Prop
  | .tip, a => a.epoch = tip
  | _, _ => True

namespace World

variable {L : Type} {w : World L}

def Faultless (w : World L) : Prop :=
  ∀ m faults, w.faults.get? m = some faults → ∀ fault ∈ faults, fault = none

theorem faultless_of_empty (h : w.faults = {}) : w.Faultless := by
  intro m faults hget
  rw [h] at hget
  cases hget

theorem Faultless.takeFault (h : w.Faultless) (m : StoreMethod) :
    (w.takeFault m).1 = none ∧ (w.takeFault m).2.Faultless := by
  unfold World.takeFault
  split
  · next fault rest hfaults =>
    obtain ⟨hfault, hrest⟩ := List.forall_mem_cons.mp (h m _ hfaults)
    refine ⟨hfault, fun m' faults hm' => ?_⟩
    dsimp only at hm'
    rw [Table.get?_insert] at hm'
    split at hm'
    · exact Option.some.inj hm' ▸ hrest
    · exact h m' faults hm'
  · exact ⟨rfl, h⟩

theorem Faultless.call (h : w.Faultless) (k : StoreCall) : (w.call k).2.Faultless := by
  obtain ⟨-, hkept⟩ := h.takeFault k.method
  have hnote (v : World L) : (v.note k).faults = v.faults := by
    unfold World.note
    split <;> rfl
  unfold World.call
  rcases hf : w.takeFault k.method with ⟨_ | cause, v⟩ <;> rw [hf] at hkept
  · have hnoted : (v.note k).Faultless := by
      unfold Faultless
      rw [hnote]
      exact hkept
    dsimp only
    rcases (v.note k).store.perform k with cause | ⟨r, s⟩ <;> exact hnoted
  · exact hkept

theorem Faultless.answers (h : w.Faultless) {k : StoreCall} {r : k.Result} {s : Store}
    (hk : w.store.perform k = .ok (r, s)) : (w.call k).1 = .ok r := by
  rw [call_answer (h.takeFault k.method).1, hk]
  rfl

theorem Faultless.succeeds (h : w.Faultless) {k : StoreCall} (hk : (w.store.perform k).isOk) :
    (w.call k).1.isOk := by
  rw [call_answer (h.takeFault k.method).1]
  rcases hp : w.store.perform k with cause | x <;> rw [hp] at hk
  · cases hk
  · rfl

theorem Faultless.reads (h : w.Faultless) {k : StoreCall} (hk : k.isWrite = false)
    {cause : StoreError} : (w.call k).1 ≠ .error cause := by
  rw [call_answer (h.takeFault k.method).1]
  cases k <;> cases hk <;> nofun

end World

variable {L : Type} [LedgerService L] {tip : Epoch} {failing : List Epoch}

/-- Nothing fails but what is about failing epochs: no call of the store, no request about another
epoch or about none, and there is no deadline. The tip stays the same. -/
structure World.Ready (tip : Epoch) (failing : List Epoch) (w : World L) : Prop where
  faultless : w.Faultless
  deadline : w.deadline = none
  remembered : ∀ e ∈ w.cache.tip, e = tip
  names : Answers (NamesTip tip) w.ledger
  serves : ∀ l, Reacts w.ledger l → ∀ q : Request, (∀ e ∈ q.epoch?, e ∉ failing) →
    (LedgerService.react l q).1.isOk

open World (Ready)

theorem World.Ready.call {w : World L} (h : w.Ready tip failing) (k : StoreCall) :
    (w.call k).2.Ready tip failing := by
  have hfaultless := h.faultless.call k
  obtain ⟨store, faults, writes, hcall⟩ := w.call_changes k
  rw [hcall] at hfaultless ⊢
  exact ⟨hfaultless, h.deadline, h.remembered, h.names, h.serves⟩

/-- What may happen in a world that is ready: an action that `fails` may fail, but nothing else
comes to a halt. -/
def readyRegime (tip : Epoch) (failing : List Epoch) (fails : Prop) : Regime L where
  permits q := fails ∨ ∀ e ∈ q.epoch?, e ∉ failing
  answers := NamesTip tip
  holds := Ready tip failing
  halts halt := fails ∧ ∃ cause, halt = .failed cause
  ask w q hq hw := by
    have hreacts : Reacts w.ledger (LedgerService.react w.ledger q).2 :=
      Relation.ReflTransGen.single ⟨q, rfl⟩
    refine ⟨⟨hw.faultless, hw.deadline, hw.remembered, hw.names.reacts hreacts,
      fun l hl => hw.serves l (trans_of Reacts hreacts hl)⟩, ?_⟩
    rcases hr : (w.ask q).1 with cause | a
    · refine ⟨hq.resolve_right fun hserved => ?_, _, rfl⟩
      have hok := hw.serves w.ledger (refl_of Reacts w.ledger) q hserved
      change (w.ask q).1.isOk at hok
      rw [hr] at hok
      cases hok
    · exact hw.names w.ledger (refl_of Reacts w.ledger) q a hr
  read w k hk hw := ⟨hw.call k, fun _ hcause => (hw.faultless.reads hk hcause).elim⟩
  renew w job lease hw := hw.call _
  tick _ _ _ hw := ⟨hw.faultless, hw.deadline, hw.remembered, hw.names, hw.serves⟩
  late w hw hlate := by
    rw [hw.deadline] at hlate
    cases hlate
  tip w e hw htip := ⟨⟨tip, none, none⟩, rfl, (hw.remembered e htip).symm⟩
  remember w a ha hw :=
    ⟨hw.faultless, hw.deadline, fun e he => Option.some.inj he ▸ ha, hw.names, hw.serves⟩

theorem readyRegime_grants (tip epoch : Epoch) (failing : List Epoch) (step : EpochStep) :
    (readyRegime tip failing (epoch ∈ failing) : Regime L).Grants epoch step := by
  have hpermits (x : Endpoint) :
      (readyRegime tip failing (epoch ∈ failing) : Regime L).PermitsAt x epoch := by
    intro q _ hq
    by_cases hfails : epoch ∈ failing
    · exact .inl hfails
    · exact .inr fun e he => (hq e he).symm ▸ hfails
  refine ⟨fun x _ => hpermits x, fun _ _ _ _ x _ => hpermits x, fun k hk => ?_, ?_, ?_⟩
  · apply Regime.call
    intro w hw
    refine ⟨hw.call k, ?_⟩
    have hok := hw.faultless.succeeds (hk w.store)
    rcases hr : (w.call k).1 with cause | a <;> rw [hr] at hok
    · cases hok
    · trivial
  · exact fun w rows hw => ⟨hw.faultless, hw.deadline, hw.remembered, hw.names, hw.serves⟩
  · exact fun _ _ _ hhalts => ⟨hhalts.1, _, rfl⟩

/-- Anything may be sent, answered and come to. -/
def Regime.free : Regime L where
  permits _ := True
  answers _ _ := True
  holds _ := True
  halts _ := True
  ask _ _ _ _ := ⟨trivial, by split <;> trivial⟩
  read _ _ _ _ := ⟨trivial, fun _ _ => trivial⟩
  renew _ _ _ _ := trivial
  tick _ _ _ _ := trivial
  late _ _ _ := trivial
  tip _ e _ _ := ⟨⟨e, none, none⟩, trivial, rfl⟩
  remember _ _ _ _ := trivial

/-- A regime with the data of the store kept. -/
def Regime.keeping (r : Regime L) (s₀ : Store) : Regime L where
  permits := r.permits
  answers := r.answers
  holds w := r.holds w ∧ s₀.SameData w.store
  halts := r.halts
  ask w q hq hw := ⟨⟨(r.ask w q hq hw.1).1, hw.2⟩, (r.ask w q hq hw.1).2⟩
  read w k hk hw := by
    obtain ⟨hholds, hfails⟩ := r.read w k hk hw.1
    refine ⟨⟨hholds, ?_⟩, hfails⟩
    rw [World.call_store hk]
    exact hw.2
  renew w job lease hw :=
    ⟨r.renew w job lease hw.1, trans_of SameData hw.2 (w.renew_passes job lease).data⟩
  tick w clock heartbeats hw := ⟨r.tick w clock heartbeats hw.1, hw.2⟩
  late w hw := r.late w hw.1
  tip w e hw := r.tip w e hw.1
  remember w a ha hw := ⟨r.remember w a ha hw.1, hw.2⟩

theorem Regime.keeping_read (r : Regime L) {s₀ : Store} {k : StoreCall} (hk : k.isWrite = false)
    {f : Store → k.Result} (hf : ∀ s : Store, s.perform k = .ok (f s, s))
    (hdata : ∀ s : Store, f s.data = f s) :
    (r.keeping s₀).Runs (Run.call k : Run L k.Result) fun a => a = f s₀ := by
  apply Regime.call
  intro w hw
  obtain ⟨hholds, hfails⟩ := (r.keeping s₀).read w k hk hw
  refine ⟨hholds, ?_⟩
  rcases w.call_cases k with ⟨a, w', hcall, hp⟩ | ⟨cause, w', hcall, -⟩ <;> rw [hcall] at hfails ⊢
  · have ha : f w.store = a := congrArg Prod.fst (Except.ok.inj ((hf w.store).symm.trans hp))
    exact ha.symm.trans (hw.2.eq f hdata)
  · exact hfails cause rfl

/-- What a sync takes up of the backlog when it finds a tip. -/
def Store.chosen (c : Settings) (bound : Nat) (s : Store) (tip : Epoch) : List Epoch :=
  match tip.prev? with
  | none => []
  | some last => (s.backlog c last).take (max bound 1)

namespace Regime

variable {r : Regime L} {c : Settings} {bound : Nat} {s₀ : Store}

theorem planEpochs (hr : r.permits .tip) (hs : s₀.Keyed) (hbound : c.maxEpochsPerRun = some bound) :
    (r.keeping s₀).Runs (Run.planEpochs c) fun x =>
      ∃ a, r.answers .tip a ∧ x.2 = s₀.chosen c bound a.epoch := by
  apply Runs.bind ((r.keeping s₀).knownTip hr c)
  rintro _ ⟨a, ha, rfl⟩
  split
  · next hprev =>
    refine Runs.pure ⟨a, ha, ?_⟩
    rw [Store.chosen, hprev]
  · next last hprev =>
    have hchosen : s₀.chosen c bound a.epoch = (s₀.backlog c last).take (max bound 1) := by
      rw [Store.chosen, hprev]
    split
    · next hlate =>
      refine Runs.pure ⟨a, ha, ?_⟩
      rw [hchosen, s₀.backlog_eq_nil hlate, List.take_nil]
    · apply Runs.bind (r.keeping_read rfl (fun _ => rfl) fun _ => rfl)
      rintro _ rfl
      exact Runs.pure ⟨a, ha, (hs.chosen_eq hbound last).trans hchosen.symm⟩

end Regime

namespace Run

variable {c : Settings} {bound : Nat} {s : Store}

theorem syncEpoch_ready (c : Settings) (epoch : Epoch) :
    Triple (Ready tip failing) (attempt (syncEpoch c epoch) : Run L _)
      (fun _ w => (epoch ∉ failing → w.store.isComplete c epoch) ∧ w.Ready tip failing)
      (fun _ => False) := by
  let r : Regime L := readyRegime tip failing (epoch ∈ failing)
  have hsync : r.Runs (syncEpoch c epoch) fun _ => True :=
    Regime.syncEpoch (readyRegime_grants tip epoch failing) c
  intro w hw
  obtain ⟨hready, hends⟩ := hsync w hw
  have hcomplete := syncEpoch_completes (L := L) c epoch w trivial
  rw [attempt_apply]
  rcases hr : syncEpoch c epoch w with ⟨halt | report, w'⟩ <;> rw [hr] at hready hends hcomplete
  · obtain ⟨hfails, cause, rfl⟩ := hends
    exact ⟨fun hnot => absurd hfails hnot, hready⟩
  · exact ⟨fun _ => hcomplete, hready⟩

theorem syncEach_ready (c : Settings) (report : EpochsReport) (epochs : List Epoch) :
    Triple (Ready tip failing) (syncEach c report epochs : Run L EpochsReport)
      (fun _ w => ∀ e ∈ epochs, e ∉ failing → w.store.isComplete c e) (fun _ => False) := by
  induction epochs generalizing report with
  | nil => exact Triple.pure fun _ _ _ => nofun
  | cons e rest ih =>
    apply Triple.bind (syncEpoch_ready c e)
    intro r
    have hrest (report : EpochsReport) :
        Triple (fun w => (e ∉ failing → w.store.isComplete c e) ∧ w.Ready tip failing)
          (syncEach c report rest : Run L EpochsReport)
          (fun _ w => ∀ d ∈ e :: rest, d ∉ failing → w.store.isComplete c d) (fun _ => False) := by
      have hgrows : Moves Grows (syncEach c report rest : Run L EpochsReport) :=
        syncEach_moves c report rest fun d _ => syncEpoch_grows c d
      have hkept := hgrows.ensures (P := fun s => e ∉ failing → s.isComplete c e)
        fun _ _ h hs hnot => h.isComplete (hs hnot)
      have hboth := ((ih report).pre fun w (hw : (e ∉ failing → w.store.isComplete c e) ∧
        w.Ready tip failing) => hw.2).and (Triple.pre hkept fun w hw => hw.1)
      exact hboth.mono (fun _ => id) (fun _ w hw => List.forall_mem_cons.mpr ⟨hw.2, hw.1⟩)
        fun _ hw => hw.1
    split <;> exact hrest _

end Run

/-- A service that refuses every request about some epochs and knows of nothing but the tip. -/
structure RefusingLedger where
  tip : Epoch
  refused : List Epoch

namespace RefusingLedger

def answer (l : RefusingLedger) : (q : Request) → q.Answer
  | .tip => ⟨l.tip, none, none⟩
  | q => ScriptedLedger.nothing q

def react (l : RefusingLedger) (q : Request) : q.Reply × RefusingLedger :=
  if q.epoch?.any l.refused.contains then (.error (.client 404 "no"), l) else (.ok (l.answer q), l)

instance : LedgerService RefusingLedger where
  react := react
  quota _ := none

theorem react_kept (l : RefusingLedger) (q : Request) : (LedgerService.react l q).2 = l := by
  change (l.react q).2 = l
  unfold react
  split <;> rfl

theorem reacts_eq {l l' : RefusingLedger} (h : Reacts l l') : l' = l := by
  induction h with
  | refl => rfl
  | tail _ hstep ih =>
    obtain ⟨q, rfl⟩ := hstep
    rw [react_kept, ih]

theorem ready {w : World RefusingLedger} (hfaults : w.faults = {}) (hdeadline : w.deadline = none)
    (hcache : w.cache.tip = none) : w.Ready w.ledger.tip w.ledger.refused where
  faultless := World.faultless_of_empty hfaults
  deadline := hdeadline
  remembered e he := by
    rw [hcache] at he
    cases he
  names l hl q a ha := by
    obtain rfl := reacts_eq hl
    change (w.ledger.react q).1 = .ok a at ha
    unfold react at ha
    split at ha
    · cases ha
    · obtain rfl := Except.ok.inj ha
      cases q <;> first | rfl | trivial
  serves l hl q hq := by
    obtain rfl := reacts_eq hl
    change (w.ledger.react q).1.isOk
    unfold react
    split
    · next hrefused =>
      rcases he : q.epoch? with _ | e <;> rw [he] at hrefused
      · cases hrefused
      · exact absurd (List.contains_iff_mem.mp hrefused) (hq e he)
    · rfl

end RefusingLedger

namespace EpochCall

variable {c : Settings} {bound : Nat} {s : Store} {last e : Epoch} {k : EpochCall L}
  {ks : List (EpochCall L)}

/-- A call syncs the incomplete epochs with given settings. -/
def Backfills (c : Settings) (k : EpochCall L) : Prop := k.task = .incomplete ∧ k.settings = c

theorem run_keyed (k : EpochCall L) (hs : s.Keyed) : (k.run s).Keyed :=
  (k.run_reaches s).keeps Store.Keyed.perform hs

/-- What a call takes up is complete behind it, apart from what fails. -/
theorem run_completes (hs : s.Keyed) (hbound : c.maxEpochsPerRun = some bound)
    (hk : k.Backfills c) (hready : k.world.Ready tip failing) :
    ∀ d ∈ s.chosen c bound tip, d ∉ failing → (k.run s).isComplete c d := by
  obtain ⟨task, c, w⟩ := k
  obtain ⟨rfl, rfl⟩ := hk
  have hstart : (w.withStore s).Ready tip failing :=
    ⟨hready.faultless, hready.deadline, hready.remembered, hready.names, hready.serves⟩
  have hplan := Regime.planEpochs (r := readyRegime (L := L) tip failing False) (.inr nofun) hs
    hbound (w.withStore s) ⟨hstart, refl_of SameData s⟩
  change ∀ d ∈ s.chosen c bound tip, d ∉ failing →
    (Run.syncEpochs c (w.withStore s)).2.store.isComplete c d
  unfold Run.syncEpochs
  rw [Run.bind_apply]
  rcases hr : Run.planEpochs c (w.withStore s) with ⟨halt | ⟨report, epochs⟩, v⟩ <;>
    rw [hr] at hplan
  · exact hplan.2.1.elim
  · obtain ⟨⟨hv, -⟩, a, ha, hchosen⟩ := hplan
    have hsync := Run.syncEach_ready c report epochs v hv
    dsimp only at hchosen ⊢
    rcases hr' : Run.syncEach c report epochs v with ⟨halt | report', v'⟩ <;> rw [hr'] at hsync
    · exact hsync.elim
    · intro d hd
      apply hsync d
      rw [hchosen, show a.epoch = tip from ha]
      exact hd

/-- A call touches no epoch but those that it takes up for some tip. -/
theorem run_differIn (hs : s.Keyed) (hbound : c.maxEpochsPerRun = some bound)
    (hk : k.Backfills c) :
    ∃ tip, DifferIn (fun d _ => d ∈ s.chosen c bound tip) s (k.run s) := by
  obtain ⟨task, c, w⟩ := k
  obtain ⟨rfl, rfl⟩ := hk
  have hplan := Regime.planEpochs (r := Regime.free (L := L)) trivial hs hbound (w.withStore s)
    ⟨trivial, refl_of SameData s⟩
  change ∃ tip, DifferIn (fun d _ => d ∈ s.chosen c bound tip) s
    (Run.syncEpochs c (w.withStore s)).2.store
  unfold Run.syncEpochs
  rw [Run.bind_apply]
  rcases hr : Run.planEpochs c (w.withStore s) with ⟨halt | ⟨report, epochs⟩, v⟩ <;>
    rw [hr] at hplan
  · obtain ⟨⟨-, hdata⟩, -⟩ := hplan
    exact ⟨⟨0⟩, Store.differIn_of_sameData hdata⟩
  · obtain ⟨⟨-, hdata⟩, a, -, hchosen⟩ := hplan
    dsimp only at hchosen ⊢
    refine ⟨a.epoch, trans_of (DifferIn _) (Store.differIn_of_sameData hdata) ?_⟩
    rw [← hchosen]
    exact Run.syncEach_differIn c report epochs v

/-- A call does not come to an epoch that is behind as many incomplete ones as it takes up. -/
theorem run_untouched (hs : s.Keyed) (hbound : c.maxEpochsPerRun = some bound)
    (hk : k.Backfills c) (hmany : max bound 1 ≤ (s.ahead c e).length) :
    DifferIn (fun d _ => d ≠ e) s (k.run s) := by
  obtain ⟨tip, hdiffer⟩ := run_differIn hs hbound hk
  refine hdiffer.mono fun d _ hd => ?_
  rintro rfl
  unfold Store.chosen at hd
  split at hd
  · cases hd
  · have hfew := (Store.mem_take_backlog_iff (List.mem_of_mem_take hd)).mp hd
    omega

theorem runAll_untouched (hs : s.Keyed) (hbound : c.maxEpochsPerRun = some bound)
    (hks : ∀ k ∈ ks, k.Backfills c) (hmany : max bound 1 ≤ ((runAll ks s).ahead c e).length) :
    DifferIn (fun d _ => d ≠ e) s (runAll ks s) := by
  induction ks generalizing s with
  | nil => exact refl_of (DifferIn _) s
  | cons k ks ih =>
    obtain ⟨hk, hrest⟩ := List.forall_mem_cons.mp hks
    -- Epochs before it that are incomplete in the end were incomplete all the time.
    have hahead := (Store.ahead_grows (c := c) (runAll_grows (k :: ks) s) e).length_le
    have hfirst := run_untouched hs hbound hk (hmany.trans hahead)
    exact trans_of (DifferIn _) hfirst (ih (k.run_keyed hs) hrest hmany)

/-- A call completes one of the epochs up to an incomplete one that does not fail, unless as many
epochs before it fail as it takes up. -/
theorem run_progress (hs : s.Keyed) (hbound : c.maxEpochsPerRun = some bound)
    (hk : k.Backfills c) (hready : k.world.Ready tip failing) (hlast : tip.prev? = some last)
    (he : e ∈ s.backlog c last) (hnot : e ∉ failing)
    (hfew : ((s.ahead c e).filter fun d => d ∈ failing).length < max bound 1) :
    (((k.run s).backlog c e).filter fun d => d ∉ failing).length <
      ((s.backlog c e).filter fun d => d ∉ failing).length := by
  obtain ⟨d, htaken, hd, hdnot⟩ := Store.exists_mem_take_backlog he hnot hfew
  have hchosen : d ∈ s.chosen c bound tip := by
    rw [Store.chosen, hlast]
    exact htaken
  have hcomplete := run_completes hs hbound hk hready d hchosen hdnot
  have hsublist := (Store.backlog_grows (c := c) (k.run_grows s) e).filter fun d => d ∉ failing
  apply Nat.lt_of_le_of_ne hsublist.length_le
  intro hlength
  have hmem : d ∈ (s.backlog c e).filter fun d => d ∉ failing :=
    List.mem_filter.mpr ⟨hd, decide_eq_true hdnot⟩
  rw [← hsublist.eq_of_length hlength] at hmem
  exact (Store.mem_backlog.mp (List.mem_of_mem_filter hmem)).2 hcomplete

/-- As many calls as there are epochs to complete up to an epoch complete it. -/
theorem runAll_completes (hs : s.Keyed) (hbound : c.maxEpochsPerRun = some bound)
    (hks : ∀ k ∈ ks, k.Backfills c ∧ k.world.Ready tip failing) (hlast : tip.prev? = some last)
    (he : e ∈ Epoch.range c.backfillFrom last) (hnot : e ∉ failing)
    (hfew : ((s.ahead c e).filter fun d => d ∈ failing).length < max bound 1)
    (hcount : ((s.backlog c e).filter fun d => d ∉ failing).length ≤ ks.length) :
    (runAll ks s).isComplete c e := by
  -- While the epoch is incomplete, every call leaves fewer epochs to complete up to it.
  induction ks generalizing s with
  | nil =>
    by_contra hopen
    have hself : e ∈ s.backlog c e := Store.mem_backlog_self (Store.mem_backlog.mpr ⟨he, hopen⟩)
    have hmem : e ∈ (s.backlog c e).filter fun d => d ∉ failing :=
      List.mem_filter.mpr ⟨hself, decide_eq_true hnot⟩
    exact Nat.not_lt.mpr hcount (List.length_pos_of_mem hmem)
  | cons k ks ih =>
    by_cases hdone : s.isComplete c e
    · exact (runAll_grows (k :: ks) s).isComplete hdone
    · obtain ⟨⟨hk, hready⟩, hrest⟩ := List.forall_mem_cons.mp hks
      have hprogress := run_progress hs hbound hk hready hlast
        (Store.mem_backlog.mpr ⟨he, hdone⟩) hnot hfew
      have hahead := ((Store.ahead_grows (c := c) (k.run_grows s) e).filter
        fun d => d ∈ failing).length_le
      apply ih (k.run_keyed hs) hrest (hahead.trans_lt hfew)
      rw [List.length_cons] at hcount
      omega

/-- Bounded syncs of the incomplete epochs, as many as there are incomplete epochs, complete every
epoch that does not fail if fewer incomplete epochs before it fail than one of them takes up. An
epoch with so many before it that are still incomplete in the end was not touched, whatever failed. -/
theorem runAll_backlog (hbound : c.maxEpochsPerRun = some bound) (hs : Store.Reaches {} s)
    (ks : List (EpochCall L)) (hks : ∀ k ∈ ks, k.Backfills c) (hlast : tip.prev? = some last)
    (he : e ∈ Epoch.range c.backfillFrom last) :
    let s' := runAll ks s
    (∀ failing : List Epoch, (∀ k ∈ ks, k.world.Ready tip failing) → e ∉ failing →
      (s.backlog c last).length ≤ ks.length →
      ((s.ahead c e).filter fun d => d ∈ failing).length < max bound 1 → s'.isComplete c e) ∧
    (max bound 1 ≤ (s'.ahead c e).length →
      ∀ step, s'.syncedAt e step = s.syncedAt e step ∧ s'.stepRows e step = s.stepRows e step) := by
  intro s'
  constructor
  · intro failing hready hnot hcount hfew
    by_cases hdone : s.isComplete c e
    · exact (runAll_grows ks s).isComplete hdone
    · apply runAll_completes hs.keyed hbound (fun k hk => ⟨hks k hk, hready k hk⟩) hlast he hnot hfew
      obtain ⟨later, hsplit, hself⟩ := Store.backlog_split (Store.mem_backlog.mpr ⟨he, hdone⟩)
      have hfiltered := List.length_filter_le (fun d => d ∉ failing) (s.backlog c e)
      rw [hsplit, List.length_append, List.length_cons] at hcount
      rw [hself, List.length_append, List.length_singleton] at hfiltered
      rw [hself]
      omega
  · intro hmany step
    exact runAll_untouched hs.keyed hbound hks hmany e step fun hne => hne rfl

/-- A bounded sync in front of a tip, while every request about some epochs is refused. -/
def refusing (bound : Nat) (tip : Epoch) (refused : List Epoch) : EpochCall RefusingLedger where
  task := .incomplete
  settings := { maxEpochsPerRun := some bound }
  world :=
    { ledger := ⟨tip, refused⟩
      worker := interrupted.world.worker
      now := ⟨5, 0⟩ }

theorem refusing_ready (bound : Nat) (tip : Epoch) (refused : List Epoch) :
    (refusing bound tip refused).world.Ready tip refused :=
  RefusingLedger.ready (w := (refusing bound tip refused).world) rfl rfl rfl

/-- Two at a time, four epochs are worked off past one that is refused. -/
theorem runAll_backlog_past_refused :
    let k := refusing 2 ⟨4⟩ [⟨1⟩]
    let s : Store := {}
    k.world.Ready ⟨4⟩ [⟨1⟩] ∧ s.backlog k.settings ⟨3⟩ = [⟨0⟩, ⟨1⟩, ⟨2⟩, ⟨3⟩] ∧
      (runAll [k, k, k, k] s).isComplete k.settings ⟨3⟩ := by
  intro k s
  have hready : k.world.Ready ⟨4⟩ [⟨1⟩] := refusing_ready 2 ⟨4⟩ [⟨1⟩]
  have hbacklog : s.backlog k.settings ⟨3⟩ = [⟨0⟩, ⟨1⟩, ⟨2⟩, ⟨3⟩] := by decide +kernel
  have hmem (x : EpochCall RefusingLedger) (hx : x ∈ [k, k, k, k]) : x = k := by simpa using hx
  have hks (x : EpochCall RefusingLedger) (hx : x ∈ [k, k, k, k]) : x.Backfills k.settings := by
    rw [hmem x hx]
    exact ⟨rfl, rfl⟩
  have hworlds (x : EpochCall RefusingLedger) (hx : x ∈ [k, k, k, k]) :
      x.world.Ready ⟨4⟩ [⟨1⟩] := by
    rw [hmem x hx]
    exact hready
  have hbound : k.settings.maxEpochsPerRun = some 2 := rfl
  have hlast : (⟨4⟩ : Epoch).prev? = some ⟨3⟩ := by decide
  have hrange : ⟨3⟩ ∈ Epoch.range k.settings.backfillFrom ⟨3⟩ := by decide
  obtain ⟨hworked, -⟩ := runAll_backlog hbound (refl_of Store.Reaches s) [k, k, k, k] hks hlast hrange
  have hcount : (s.backlog k.settings ⟨3⟩).length ≤ 4 := by
    rw [hbacklog]
    exact Nat.le_refl 4
  exact ⟨hready, hbacklog, hworked [⟨1⟩] hworlds (by decide) hcount (by decide +kernel)⟩

/-- One at a time, two syncs do not come to the second of two epochs if the first one is refused. -/
theorem runAll_backlog_starved :
    let k := refusing 1 ⟨2⟩ [⟨0⟩]
    let s : Store := {}
    k.Backfills k.settings ∧ k.world.Ready ⟨2⟩ [⟨0⟩] ∧
      (∀ l, Reacts k.world.ledger l → ¬ (LedgerService.react l (.supplyTotals ⟨0⟩)).1.isOk) ∧
      s.backlog k.settings ⟨1⟩ = [⟨0⟩, ⟨1⟩] ∧ ⟨1⟩ ∉ ([⟨0⟩] : List Epoch) ∧
      ¬ (runAll [k, k] s).isComplete k.settings ⟨1⟩ := by
  intro k s
  refine ⟨⟨rfl, rfl⟩, refusing_ready 1 ⟨2⟩ [⟨0⟩], fun l hl => ?_, by decide +kernel, by decide,
    by decide +kernel⟩
  rw [RefusingLedger.reacts_eq hl]
  decide

end EpochCall

end GovernanceIndex
