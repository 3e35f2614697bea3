import GovernanceIndex.Ledger.Simulated
import GovernanceIndex.Proofs.Sync.DelegationCycle
import Mathlib.Data.Prod.Lex

/-!
The order of the change log by epoch. A replayed history is in order, and a change that was observed
is of the latest epoch that is over, so the log of an address is in order unless a certificate of
the epoch in progress was replayed before the address was observed.
-/
namespace GovernanceIndex

theorem Epoch.toNat_inj {a b : Epoch} : a.toNat = b.toNat ↔ a = b := by
  obtain ⟨m⟩ := a
  obtain ⟨n⟩ := b
  rw [Epoch.mk.injEq]
  exact UInt32.toNat_inj

namespace DelegationUpdate

def place (u : DelegationUpdate) : ℕ ×ₗ ℕ ×ₗ ℕ ×ₗ ℤ :=
  toLex (u.epoch.toNat, toLex (u.epochSlot.toNat, toLex (u.absoluteSlot.toNat, u.blockTime.toInt)))

theorem le_iff (u v : DelegationUpdate) : u.le v = true ↔ u.place ≤ v.place := by
  have hepoch := Epoch.toNat_inj (a := u.epoch) (b := v.epoch)
  have hslot := UInt64.toNat_inj (a := u.epochSlot) (b := v.epochSlot)
  have habsolute := UInt64.toNat_inj (a := u.absoluteSlot) (b := v.absoluteSlot)
  simp only [place, Prod.Lex.toLex_le_toLex, le, ne_eq, ← hepoch, ← hslot, ← habsolute]
  split_ifs <;> rw [decide_eq_true_iff] <;> omega

theorem le_trans {u v w : DelegationUpdate} (huv : u.le v = true) (hvw : v.le w = true) :
    u.le w = true := by
  rw [le_iff] at huv hvw ⊢
  exact huv.trans hvw

theorem le_total (u v : DelegationUpdate) : (u.le v || v.le u) = true := by
  rw [Bool.or_eq_true, le_iff, le_iff]
  exact LinearOrder.le_total u.place v.place

theorem sort_pairwise_place (us : List DelegationUpdate) :
    (sort us).Pairwise fun u v => u.place ≤ v.place := by
  have hsorted : (sort us).Pairwise fun u v => u.le v = true := by
    apply List.pairwise_mergeSort
    · exact fun _ _ _ => le_trans
    · exact le_total
  exact hsorted.imp fun {u v} h => (le_iff u v).mp h

theorem sort_pairwise (us : List DelegationUpdate) :
    (sort us).Pairwise fun u v => u.epoch.toNat ≤ v.epoch.toNat := by
  refine (sort_pairwise_place us).imp fun {u v} h => ?_
  simp only [place, Prod.Lex.toLex_le_toLex] at h
  omega

end DelegationUpdate

namespace History

/-- Every change of a replay is of the epoch of a certificate, and the certificates stand in the
order of the changes. -/
theorem changes_epochs (a : StakeAddress) (t : Timestamp) (d : Option DelegateId)
    (us : List DelegationUpdate) :
    ((changes a t d us).map fun c => c.epoch).Sublist (us.map fun u => u.epoch) := by
  induction us generalizing d with
  | nil => exact List.Sublist.refl _
  | cons u us ih =>
    rw [changes]
    split
    · exact (ih d).cons _
    · exact (ih _).cons_cons _

theorem replay_ordered (a : StakeAddress) (us : List DelegationUpdate) (now : Timestamp) :
    (replay a us now).1.Pairwise fun x y => x.epoch.toNat ≤ y.epoch.toNat := by
  have hsorted : ((DelegationUpdate.sort us).map fun u => u.epoch).Pairwise
      fun d e => d.toNat ≤ e.toNat := List.pairwise_map.mpr (DelegationUpdate.sort_pairwise us)
  have hchanges : ((replay a us now).1.map fun c => c.epoch).Pairwise
      fun d e => d.toNat ≤ e.toNat := hsorted.sublist (changes_epochs a now none _)
  rw [List.pairwise_map] at hchanges
  exact hchanges

theorem changes_amount (a : StakeAddress) (t : Timestamp) (d : Option DelegateId)
    (us : List DelegationUpdate) : ∀ c ∈ changes a t d us, c.amount = none := by
  induction us generalizing d with
  | nil => simp [changes]
  | cons u us ih =>
    rw [changes]
    split
    · exact ih d
    · exact List.forall_mem_cons.mpr ⟨rfl, ih _⟩

theorem replay_epoch {a : StakeAddress} {us : List DelegationUpdate} {now : Timestamp}
    {c : DelegationChange} (h : c ∈ (replay a us now).1) : ∃ u ∈ us, c.epoch = u.epoch := by
  have hmem := (changes_epochs a now none _).subset (List.mem_map_of_mem h)
  obtain ⟨u, hu, heq⟩ := List.mem_map.mp hmem
  exact ⟨u, List.mem_mergeSort.mp hu, heq.symm⟩

end History

theorem DelegationChange.filter_prefix {log : List DelegationChange}
    (h : log.Pairwise fun x y => x.epoch.toNat ≤ y.epoch.toNat) (e : Epoch) :
    (log.filter fun c => c.epoch.le e) <+: log := by
  induction log with
  | nil => exact List.prefix_refl []
  | cons c log ih =>
    obtain ⟨hfirst, hrest⟩ := List.pairwise_cons.mp h
    by_cases hc : c.epoch.le e
    · rw [List.filter_cons, if_pos hc]
      exact (List.prefix_cons_inj c).mpr (ih hrest)
    · have hnone : (c :: log).filter (fun c => c.epoch.le e) = [] := by
        rw [List.filter_eq_nil_iff]
        intro d hd hle
        simp only [Epoch.le, decide_eq_true_eq] at hc hle
        rcases List.mem_cons.mp hd with rfl | hd
        · exact hc hle
        · exact hc ((hfirst d hd).trans hle)
      rw [hnone]
      exact List.nil_prefix

/-- A change may stand before another one in the log of an address: it is of no later epoch, or it
does not count and the other one was observed. -/
def DelegationChange.MayPrecede (Counts : DelegationChange → Prop) (x y : DelegationChange) :
    Prop :=
  x.epoch.toNat ≤ y.epoch.toNat ∨ ¬ Counts x ∧ y.amount.isSome

open DelegationChange (MayPrecede)

namespace Store

/-- A chained store in whose log changes stand in order, and of whose changes those that count are
of epochs before the tip. -/
structure Dated (Counts : DelegationChange → Prop) (tip : Nat) (s : Store) : Prop where
  chained : s.Chained
  ordered : ∀ a, (s.changesOf a).Pairwise (MayPrecede Counts)
  bounded : ∀ c ∈ s.changes, Counts c → c.epoch.toNat < tip

variable {Counts : DelegationChange → Prop} {tip tip' : Nat} {s s' : Store}

theorem Dated.later (h : Dated Counts tip s) (htip : tip ≤ tip') : Dated Counts tip' s :=
  ⟨h.chained, h.ordered, fun c hc hcounts => (h.bounded c hc hcounts).trans_le htip⟩

theorem Dated.sameLog (h : Dated Counts tip s) (hs : s.SameLog s') : Dated Counts tip s' := by
  have hcontinues : s'.Continues s.changes :=
    (Continues.mk h.chained (List.prefix_refl s.changes)).sameLog hs
  refine ⟨hcontinues.chained, fun a => ?_, hs.changes ▸ h.bounded⟩
  rw [hs.changesOf]
  exact h.ordered a

theorem Chained.changesOf_eq_nil (h : s.Chained) {a : StakeAddress}
    (hnone : s.states.get? a = none) : s.changesOf a = [] := by
  have hleads := (h a).last
  unfold delegateOf at hleads
  rw [hnone, Option.or_none, Option.map_none] at hleads
  exact List.getLast?_eq_none_iff.mp (Option.map_eq_none_iff.mp hleads.symm)

theorem Dated.append (h : Dated Counts tip s) {a : StakeAddress} {cs : List DelegationChange}
    {xs : List DelegationState} (hchained : (s.applyChanges cs xs).Chained)
    (haddress : ∀ c ∈ cs, c.address = a)
    (hordered : (s.changesOf a ++ cs).Pairwise (MayPrecede Counts))
    (hbounded : ∀ c ∈ cs, Counts c → c.epoch.toNat < tip) :
    Dated Counts tip (s.applyChanges cs xs) := by
  refine ⟨hchained, fun b => ?_, fun c hc => ?_⟩
  · by_cases hb : b = a
    · subst hb
      rw [applyChanges_changesOf s xs haddress]
      exact hordered
    · rw [applyChanges_changesOf_of_ne s xs haddress hb]
      exact h.ordered b
  · rcases List.mem_append.mp hc with hc | hc
    · exact h.bounded c hc
    · exact hbounded c hc

/-- A history has no changes that count but those of epochs before the tip. -/
def HistoryBefore (Counts : DelegationChange → Prop) (tip : Nat) (a : StakeAddress)
    (us : List DelegationUpdate) : Prop :=
  ∀ now, ∀ c ∈ (History.replay a us now).1, Counts c → c.epoch.toNat < tip

/-- A cycle that learned a tip keeps the log in order. -/
theorem Dated.cycleInvariant {epoch : Epoch} (hepoch : epoch.toNat + 1 = tip)
    (observed : List (StakeAddress × Observation)) :
    CycleInvariant epoch observed (HistoryBefore Counts tip) (Dated Counts tip) := by
  have hcontinues := Continues.cycleInvariant [] epoch observed
  have hstart {s : Store} (hs : Dated Counts tip s) : s.Continues [] :=
    ⟨hs.chained, List.nil_prefix⟩
  constructor
  · exact fun s s' hs h => h.sameLog hs
  · intro s now hs x hx hnone us hserved
    have hchained := (hcontinues.replay s now (hstart hs) x hx hnone us trivial).chained
    apply hs.append hchained (History.replay_address x.1 us now).1
    · rw [hs.chained.changesOf_eq_nil hnone, List.nil_append]
      exact (History.replay_ordered x.1 us now).imp Or.inl
    · exact hserved now
  · intro s now hs x hx hserved d hd
    have hchained := (hcontinues.differ s now (hstart hs) x hx (fun _ => trivial) d hd).chained
    have hchange (c : DelegationChange) (hc : c ∈ d.change.toList) :
        c.address = x.1 ∧ c.epoch = epoch ∧ c.amount.isSome := by
      obtain ⟨haddress, -, hepoch, hamount⟩ := Difference.of_change hd c hc
      exact ⟨haddress, hepoch, by rw [hamount]; rfl⟩
    apply hs.append hchained fun c hc => (hchange c hc).1
    · rw [List.pairwise_append]
      refine ⟨hs.ordered x.1, ?_, fun y hy c hc => ?_⟩
      · rcases d.change with _ | c <;> simp
      · obtain ⟨-, hc, hobserved⟩ := hchange c hc
        by_cases hy' : Counts y
        · left
          have := hs.bounded y (List.mem_of_mem_filter hy) hy'
          rw [hc]
          omega
        · exact .inr ⟨hy', hobserved⟩
    · intro c hc _
      rw [(hchange c hc).2.1]
      omega

end Store

open Store (Dated HistoryBefore)
open LedgerService (Answers)

theorem Epoch.prev?_eq_some {e d : Epoch} (h : e.prev? = some d) : d.toNat + 1 = e.toNat := by
  unfold prev? at h
  split at h
  · cases h
  · next hne =>
    obtain rfl := Option.some.inj h
    have hlt : e.toNat < 4294967296 := e.number.toNat_lt
    have hmod : (UInt32.ofNat (e.toNat - 1)).toNat = e.toNat - 1 := by
      rw [UInt32.toNat_ofNat']
      omega
    change (UInt32.ofNat (e.toNat - 1)).toNat + 1 = e.toNat
    omega

namespace DelegationCycle

variable {L : Type} [LedgerService L]

/-- The tip that a cycle learns, if it learns one. -/
def tip? (k : DelegationCycle L) (s : Store) : Option Epoch :=
  (Run.knownTip k.settings (k.world.withStore s)).1.toOption

def tips : List (DelegationCycle L) → Store → List Epoch
  | [], _ => []
  | k :: ks, s => (k.tip? s).toList ++ tips ks (k.run s)

/-- What the services of cycles answer has a property that may depend on the tips. -/
def Answering (V : Epoch → (q : Request) → q.Answer → Prop) :
    List (DelegationCycle L) → Store → Prop
  | [], _ => True
  | k :: ks, s => (∀ tip ∈ k.tip? s, Answers (V tip) k.world.ledger) ∧ Answering V ks (k.run s)

theorem answering_trivial (ks : List (DelegationCycle L)) (s : Store) :
    Answering (fun _ _ _ => True) ks s := by
  induction ks generalizing s with
  | nil => trivial
  | cons k ks ih => exact ⟨fun _ _ => LedgerService.answers_trivial k.world.ledger, ih _⟩

/-- Certificates that are served are of epochs before the tip. -/
def CertifiedBefore (tip : Epoch) : (q : Request) → q.Answer → Prop
  | .histories _, hs => ∀ h ∈ hs, ∀ u ∈ h.updates, u.epoch.toNat < tip.toNat
  | _, _ => True

theorem tip?_of_observe {k : DelegationCycle L} {s : Store} {epoch : Epoch} {found : List Found}
    {w : World L} (h : Run.observe k.settings (k.world.withStore s) = (.ok (epoch, found), w)) :
    ∃ tip, k.tip? s = some tip ∧ tip.prev? = some epoch := by
  obtain ⟨epoch', w₁, hlatest, hrest⟩ := Run.exists_of_bind_ok h
  obtain ⟨rows, w₂, -, hrest⟩ := Run.exists_of_bind_ok hrest
  obtain ⟨found', w₃, -, hend⟩ := Run.exists_of_bind_ok hrest
  cases hend
  obtain ⟨tip, w₄, htip, hprev⟩ := Run.exists_of_bind_ok hlatest
  refine ⟨tip, ?_, ?_⟩
  · unfold tip?
    rw [htip]
    rfl
  · rcases hp : tip.prev? with _ | e <;> rw [hp] at hprev <;> cases hprev
    rfl

variable {Counts : DelegationChange → Prop} {V : Epoch → (q : Request) → q.Answer → Prop}
  {s : Store} {bound : Nat}

/-- A cycle keeps the log in order up to the tip that it learns. -/
theorem run_dated (hV : ∀ tip, HistoriesServe (V tip) (HistoryBefore Counts tip.toNat))
    {k : DelegationCycle L} (h : s.Dated Counts bound)
    (hbound : ∀ tip ∈ k.tip? s, bound ≤ tip.toNat)
    (hanswers : ∀ tip ∈ k.tip? s, Answers (V tip) k.world.ledger) :
    (k.run s).Dated Counts (((k.tip? s).map Epoch.toNat).getD bound) := by
  have hlater : bound ≤ ((k.tip? s).map Epoch.toNat).getD bound := by
    rcases htip : k.tip? s with _ | tip
    · exact Nat.le_refl bound
    · exact hbound tip htip
  have hreads := Run.Reads.observe k.settings (k.world.withStore s)
  unfold run Run.storeAfter
  rw [Run.syncDelegations_eq, Run.bind_apply]
  rcases hobserve : Run.observe k.settings (k.world.withStore s) with ⟨halt | ⟨epoch, found⟩, w⟩ <;>
    rw [hobserve] at hreads
  · exact (h.sameLog hreads.data.sameLog).later hlater
  · obtain ⟨tip, htip, hprev⟩ := tip?_of_observe hobserve
    have hserving : World.Serving (V tip) (Dated Counts tip.toNat) w :=
      ⟨(hanswers tip htip).reacts hreads.ledger,
        (h.sameLog hreads.data.sameLog).later (hbound tip htip)⟩
    have hcycle := Run.reconcile_triple k.settings found
      (Dated.cycleInvariant (Epoch.prev?_eq_some hprev) _) (hV tip) w hserving
    rw [htip]
    dsimp only
    rcases hr : Run.reconcile k.settings epoch found w with ⟨halt | report, w'⟩ <;>
      rw [hr] at hcycle
    · exact hcycle
    · exact hcycle.1

/-- Cycles whose tips do not go back keep the log in order. -/
theorem runs_dated (hV : ∀ tip, HistoriesServe (V tip) (HistoryBefore Counts tip.toNat))
    {ks : List (DelegationCycle L)} (h : s.Dated Counts bound)
    (hbound : ∀ tip ∈ tips ks s, bound ≤ tip.toNat)
    (htips : (tips ks s).Pairwise fun t u => t.toNat ≤ u.toNat) (hanswers : Answering V ks s) :
    ∃ last, (ks.foldl (fun s k => k.run s) s).Dated Counts last := by
  induction ks generalizing s bound with
  | nil => exact ⟨bound, h⟩
  | cons k ks ih =>
    obtain ⟨hfirst, hrest⟩ := hanswers
    obtain ⟨-, htips, hbetween⟩ := List.pairwise_append.mp htips
    have hrun := run_dated hV h (fun t ht => hbound t (List.mem_append_left _
      (Option.mem_toList.mpr ht))) hfirst
    refine ih hrun (fun t ht => ?_) htips hrest
    rcases htip : k.tip? s with _ | tip
    · exact hbound t (List.mem_append_right _ ht)
    · exact hbetween tip (by simp [htip]) t ht

theorem historiesServe_unobserved (tip : Epoch) : HistoriesServe (fun _ _ => True)
    (HistoryBefore (fun c => c.amount.isSome) tip.toNat) := by
  intro addresses hs _ a _ now c hc hcounts
  rw [History.changes_amount a now none _ c hc] at hcounts
  cases hcounts

theorem historiesServe_certifiedBefore (tip : Epoch) :
    HistoriesServe (CertifiedBefore tip) (HistoryBefore (fun _ => True) tip.toNat) := by
  intro addresses hs hcertified a ha now c hc _
  obtain ⟨u, hu, hepoch⟩ := History.replay_epoch hc
  obtain ⟨h, hh, hmem⟩ := DelegationHistory.mem_of hu
  rw [hepoch]
  exact hcertified h hh u hmem

/-- Behind cycles whose tips do not go back, the changes of an address are in the order of their
epochs but for observed ones behind replayed ones. If in addition every certificate that is served
is of an epoch before the tip, they are in order without exception, and those up to an epoch come
before all others. -/
theorem changes_ordered (ks : List (DelegationCycle L))
    (htips : (tips ks {}).Pairwise fun t u => t.toNat ≤ u.toNat) (a : StakeAddress) :
    let log := (runAll ks).changesOf a
    (log.Pairwise fun x y => x.epoch.toNat ≤ y.epoch.toNat ∨ x.amount = none ∧ y.amount.isSome) ∧
    (Answering CertifiedBefore ks {} →
      (log.Pairwise fun x y => x.epoch.toNat ≤ y.epoch.toNat) ∧
      ∀ e : Epoch, (log.filter fun c => c.epoch.le e) <+: log) := by
  intro log
  have hstart (Counts : DelegationChange → Prop) : ({} : Store).Dated Counts 0 :=
    ⟨fun _ => rfl, fun _ => List.Pairwise.nil, fun c hc => absurd hc List.not_mem_nil⟩
  constructor
  · obtain ⟨last, hdated⟩ := runs_dated historiesServe_unobserved (hstart _)
      (fun _ _ => Nat.zero_le _) htips (answering_trivial ks {})
    refine (hdated.ordered a).imp fun h => ?_
    rcases h with hle | ⟨hnot, hobserved⟩
    · exact .inl hle
    · exact .inr ⟨Option.not_isSome_iff_eq_none.mp hnot, hobserved⟩
  · intro hanswers
    obtain ⟨last, hdated⟩ := runs_dated historiesServe_certifiedBefore (hstart _)
      (fun _ _ => Nat.zero_le _) htips hanswers
    have hordered : log.Pairwise fun x y => x.epoch.toNat ≤ y.epoch.toNat := by
      refine (hdated.ordered a).imp fun h => ?_
      rcases h with hle | ⟨hnot, -⟩
      · exact hle
      · exact absurd trivial hnot
    exact ⟨hordered, DelegationChange.filter_prefix hordered⟩

theorem certifiedBefore_answers {l : SimulatedLedger} {tip : Epoch}
    (h : ∀ e ∈ l.histories.entries, ∀ u ∈ e.2, u.epoch.toNat < tip.toNat) :
    Answers (CertifiedBefore tip) l := by
  apply l.answers.mono (W := CertifiedBefore tip)
  intro q a ha
  cases q with
  | histories addresses =>
    intro x hx u hu
    obtain rfl := Except.ok.inj ha
    obtain ⟨address, -, hget⟩ := List.mem_filterMap.mp hx
    obtain ⟨updates, hupdates, rfl⟩ := Option.map_eq_some_iff.mp hget
    exact h _ (Table.mem_entries_of_get? hupdates) u hu
  | _ => trivial

def delegator : StakeAddress := ⟨"stake1u1", by decide⟩

def firstDelegate : DelegateId := ⟨"drep1a", by decide⟩

def secondDelegate : DelegateId := ⟨"drep1b", by decide⟩

def thirdDelegate : DelegateId := ⟨"drep1third", by decide⟩

/-- A cycle that observes the address behind the first or the second delegate, while the chain has a
certificate for the second one. -/
def meeting (tip observed certified : Epoch) (delegate : DelegateId) :
    DelegationCycle SimulatedLedger where
  settings := {}
  world :=
    { ledger :=
        { tip := some tip
          delegates := ⟨[(delegate, ⟨delegate, true, true⟩)]⟩
          delegatePower := ⟨[((observed, delegate), 5)]⟩
          delegators := ⟨[(delegate, [⟨delegator, 10⟩])]⟩
          histories := ⟨[(delegator, [⟨secondDelegate, certified, 0, 0, 0⟩])]⟩ }
      worker := { id := ⟨"w1", by decide⟩ }
      now := ⟨5, 0⟩ }

theorem meeting_tip? (tip observed certified : Epoch) (delegate : DelegateId) (s : Store) :
    (meeting tip observed certified delegate).tip? s = some tip := rfl

theorem meeting_answers {tip observed certified : Epoch} (delegate : DelegateId)
    (h : certified.toNat < tip.toNat) :
    Answers (CertifiedBefore tip) (meeting tip observed certified delegate).world.ledger := by
  apply certifiedBefore_answers
  simpa [meeting] using h

/-- With a certificate of an epoch that is over the log is in order, and each further observation
comes behind. -/
theorem changes_ordered_twice :
    let ks := [meeting ⟨530⟩ ⟨529⟩ ⟨520⟩ firstDelegate, meeting ⟨531⟩ ⟨530⟩ ⟨520⟩ secondDelegate]
    let log := (runAll ks).changesOf delegator
    (tips ks {}).Pairwise (fun t u => t.toNat ≤ u.toNat) ∧ Answering CertifiedBefore ks {} ∧
      (log.Pairwise fun x y => x.epoch.toNat ≤ y.epoch.toNat) ∧
      ((log.filter fun c => c.epoch.le ⟨529⟩) <+: log) ∧
      log.map (fun c => c.epoch.toNat) = [520, 529, 530] := by
  intro ks log
  have htips : (tips ks {}).Pairwise fun t u => t.toNat ≤ u.toNat := by decide +kernel
  have hanswers : Answering CertifiedBefore ks {} := by
    refine ⟨fun tip htip => ?_, fun tip htip => ?_, trivial⟩
    · obtain rfl := Option.some.inj ((meeting_tip? _ _ _ _ _).symm.trans htip)
      exact meeting_answers firstDelegate (by decide)
    · obtain rfl := Option.some.inj ((meeting_tip? _ _ _ _ _).symm.trans htip)
      exact meeting_answers secondDelegate (by decide)
  obtain ⟨-, hcertified⟩ := changes_ordered ks htips delegator
  obtain ⟨hordered, hprefix⟩ := hcertified hanswers
  exact ⟨htips, hanswers, hordered, hprefix ⟨529⟩, by decide +kernel⟩

/-- A certificate of the epoch in progress is replayed with that epoch, and the address is observed
with the one before. -/
theorem changes_unordered_in_progress :
    let ks := [meeting ⟨530⟩ ⟨529⟩ ⟨530⟩ firstDelegate]
    (tips ks {}).Pairwise (fun t u => t.toNat ≤ u.toNat) ∧
      ¬ ((runAll ks).changesOf delegator).Pairwise fun x y => x.epoch.toNat ≤ y.epoch.toNat := by
  decide +kernel

end DelegationCycle

end GovernanceIndex
