import GovernanceIndex.Proofs.Ledger.AvoidedEndpoints
import GovernanceIndex.Proofs.Sync.Batching
import GovernanceIndex.Proofs.Sync.CycleAccounts
import GovernanceIndex.Proofs.Sync.Recall
import GovernanceIndex.Proofs.Sync.SentRequests

/-!
A cycle that is run again changes nothing. Once a cycle has ended without skipping an address, the
store is up to date with what it observed: each address has the state that was observed, whatever
its history says, and no full backfill is due. A later cycle that observes the same then reads the
store, takes no histories and writes nothing.
-/
namespace GovernanceIndex

open LedgerService (Reacts)
open Store (Finished Begun Blank Reconciled Replays)
open World (Replying Avoids Traced)

/-- A service gives every request one reply, now and behind any requests. -/
def Replies.GivenBy {L : Type} [LedgerService L] (f : Replies) (l : L) : Prop :=
  ∀ l', Reacts l l' → ∀ q, (LedgerService.react l' q).1 = f q

theorem Replies.GivenBy.replying {L : Type} [LedgerService L] {f : Replies} {w : World L}
    {mayFail : Prop} (h : f.GivenBy w.ledger)
    (hsound : mayFail ∨ w.Faultless ∧ w.deadline = none) :
    w.Replying (fun _ => True) mayFail f w.store w.cache :=
  ⟨fun l hl => ⟨h l hl, trivial⟩, hsound, refl_of Store.SameData w.store, rfl⟩

/-- A store is up to date with observations: each of them is settled, and no full backfill is
due. -/
structure Store.UpToDate (epoch : Epoch) (observed : List (StakeAddress × Observation))
    (s : Store) : Prop where
  settled : ∀ x ∈ observed, Difference.Settled epoch x.2 (s.states.get? x.1)
  rested : s.Finished ∨ ¬ s.Begun ∧ ¬ s.Blank

open Store (UpToDate)

namespace Store

variable {epoch : Epoch} {now : Timestamp} {observed : List (StakeAddress × Observation)}
  {s s' s₀ s₁ : Store} {b : Backfill} {Served : StakeAddress → List DelegationUpdate → Prop}
  {done : List StakeAddress}

theorem UpToDate.sameData (h : s.UpToDate epoch observed) (hs : s.SameData s') :
    s'.UpToDate epoch observed := by
  constructor
  · rw [hs.eq fun s => s.states]
    exact h.settled
  · rw [finished_iff hs, begun_iff hs, blank_iff hs]
    exact h.rested

theorem UpToDate.newAddresses (h : s.UpToDate epoch observed) : s.newAddresses observed = [] := by
  unfold Store.newAddresses
  rw [List.filter_eq_nil_iff]
  intro a ha hnone
  obtain ⟨x, hx, rfl⟩ := List.mem_map.mp ha
  obtain ⟨y, hy, -⟩ := h.settled x hx
  rw [hy] at hnone
  cases hnone

theorem UpToDate.differences (h : s.UpToDate epoch observed) (now : Timestamp)
    (skipped : List StakeAddress) :
    Difference.all epoch now s.states.get? skipped observed = [] := by
  rw [List.eq_nil_iff_forall_not_mem]
  intro d hd
  obtain ⟨x, hx, -, hof⟩ := Difference.mem_all.mp hd
  rw [Difference.of_eq_none_iff.mpr (h.settled x hx)] at hof
  cases hof

theorem Replays.snapshots (h : Replays Served now s done s') : s'.snapshots = s.snapshots := by
  induction h with
  | nil => rfl
  | snoc h hus ih => exact ih

theorem Reconciled.snapshots {mayFail : Prop}
    (h : Reconciled mayFail Served now epoch observed s₀ b s₁ s) : s.snapshots = s₀.snapshots := by
  rw [h.differed.eq fun s => s.snapshots]
  exact h.backfilled.content.snapshots

theorem Reconciled.finished {mayFail : Prop}
    (h : Reconciled mayFail Served now epoch observed s₀ b s₁ s)
    (hdue : ¬ s₀.Finished ∧ (s₀.Begun ∨ s₀.Blank)) (hskipped : b.skipped = []) : s.Finished := by
  have hjob : s₀.backfillJob? (s₀.newAddresses observed) = some fullBackfillJob := if_pos hdue
  obtain ⟨-, hfinished⟩ := h.backfilled.books hskipped
  rw [hjob] at hfinished
  have hclosed : s₁.Finished := by
    unfold Finished isBackfillDone
    rw [hfinished]
    exact List.contains_iff_mem.mpr (List.mem_insert_self)
  have hwritten : (s₁.applyDifferences
      (Difference.all epoch now s₁.states.get? b.skipped observed)).Finished := hclosed
  exact (finished_iff h.differed).mpr hwritten

end Store

namespace Run

variable {L : Type} [LedgerService L] {f : Replies} {c : Settings} {epoch : Epoch}
  {found : List Found} {s : Store} {w w₀ : World L}

/-- A cycle that ends without skipping an address leaves a store that is up to date with what it
observed, and with the same inventories. -/
theorem syncDelegations_upToDate {report : DelegationsReport} {w' : World L}
    (hf : f.GivenBy w.ledger) (h : syncDelegations c w = (.ok report, w'))
    (hskipped : report.backfillSkipped = 0) :
    ∃ found, f.observed c w.store w.cache = .ok (report.epoch, found) ∧
      w'.store.UpToDate report.epoch (Observation.latest (Observation.reports found)) ∧
      w'.store.snapshots = w.store.snapshots := by
  obtain ⟨found, w₁, b, s₁, hobserve, -, hreconciled, hreport⟩ := syncDelegations_reconciled h
  have hreplying : w.Replying (fun _ => True) True f w.store w.cache := hf.replying (.inl trivial)
  obtain ⟨⟨found₀, hobserved, hperm⟩, -⟩ := (givenObserve c).ok hreplying hobserve
  have hreports : Observation.reports found = Observation.reports found₀ :=
    Replies.reports_of_observed hobserved hperm
  have hnone : b.skipped = [] := by
    rw [hreport] at hskipped
    exact List.length_eq_zero_iff.mp hskipped
  refine ⟨found₀, hobserved, ⟨fun x hx => ?_, ?_⟩, hreconciled.snapshots⟩
  · rw [← hreports] at hx
    exact hreconciled.settled (Observation.latest_nodup _) hx (hnone ▸ List.not_mem_nil)
  · by_cases hfinished : w.store.Finished
    · have hcycle := syncDelegations_incremental (L := L) Store.finished_incremental c
      exact .inl (Triple.ok hcycle hfinished h).2
    · by_cases hdue : w.store.Begun ∨ w.store.Blank
      · exact .inl (hreconciled.finished ⟨hfinished, hdue⟩ hnone)
      · have hcycle := syncDelegations_incremental (L := L) Store.not_resumable_incremental c
        have hnot : ¬ w.store.Resumable := not_or.mpr ⟨hfinished, hdue⟩
        exact Store.not_resumable_incremental.unneeded _ (Triple.ok hcycle hnot h).2

/-- Over a store that is up to date with what was observed the second part of a cycle has nothing to
do: it reads the store. -/
theorem reconcile_upToDate
    (h : s.UpToDate epoch (Observation.latest (Observation.reports found))) (c : Settings) :
    Triple (Traced False w₀ [] s.SameData) (reconcile c epoch found : Run L DelegationsReport)
      (fun report w => report = .of epoch found [] false {} [] ∧ Traced False w₀ [] s.SameData w)
      fun _ => False := by
  have hnew : ((Observation.latest (Observation.reports found)).map Prod.fst).filter (fun a =>
      ((s.statesOf ((Observation.latest (Observation.reports found)).map Prod.fst)).get? a).isNone) =
        [] := (s.newAddresses_eq _).trans h.newAddresses
  unfold reconcile
  dsimp only
  apply Triple.bind (tracedReadData (g := fun s =>
    s.statesOf ((Observation.latest (Observation.reports found)).map Prod.fst))
    (fun _ => rfl) fun _ => rfl)
  intro stored
  apply Triple.assuming
  rintro rfl
  rw [hnew]
  apply Triple.bind (Q := fun r w => r = (false, {}) ∧ Traced False w₀ [] s.SameData w)
  · have hjob : s.backfillJob? [] = none := by
      refine Store.backfillJob?_eq_none.mpr ⟨?_, rfl⟩
      rintro ⟨hfinished, hdue⟩
      obtain ⟨hbegun, hblank⟩ := h.rested.resolve_left hfinished
      exact hdue.elim hbegun hblank
    apply Outcomes.triple_iff.mpr
    apply backfillNew_due
    · exact fun k g hk hg => Outcomes.triple_iff.mp (tracedReadData hk hg)
    · intro job hdue
      cases hjob.symm.trans hdue
    · exact fun _ w hw => ⟨rfl, hw⟩
  intro r
  apply Triple.assuming
  rintro rfl
  apply Triple.bind (Q := fun states w => states = {} ∧ Traced False w₀ [] s.SameData w)
  · exact Triple.pure fun w hw => ⟨rfl, hw⟩
  intro states
  apply Triple.assuming
  rintro rfl
  apply Triple.getBind
  intro w
  have hdifferences : Difference.all epoch w.now (fun a => (Table.get? {} a).or
      ((s.statesOf ((Observation.latest (Observation.reports found)).map Prod.fst)).get? a)) []
      (Observation.latest (Observation.reports found)) = [] := by
    rw [← h.differences w.now []]
    apply Difference.all_congr
    intro a ha
    rw [Store.statesOf_get?, if_pos ha]
    exact Option.none_or
  rw [hdifferences]
  exact Triple.pure fun v hv => ⟨rfl, hv.2⟩

/-- Behind a cycle that ended without skipping an address, a cycle that gets the same replies and
remembers nothing has nothing to do. It reports no change, takes no histories and leaves the data of
the store as it is. -/
theorem syncDelegations_repeated {report : DelegationsReport} {w w' v : World L}
    (hf : f.GivenBy w.ledger) (hrecalls : f.Recalls c w.store w.cache)
    (h : syncDelegations c w = (.ok report, w')) (hskipped : report.backfillSkipped = 0)
    (hf' : f.GivenBy v.ledger) (hstore : w'.store.SameData v.store) (hcache : v.cache = {})
    (hfaultless : v.Faultless) (hdeadline : v.deadline = none) :
    ∃ report' v', syncDelegations c v = (.ok report', v') ∧ report'.epoch = report.epoch ∧
      report'.eventsRecorded = 0 ∧ report'.statesRefreshed = 0 ∧ report'.backfilled = 0 ∧
      report'.newAddresses = 0 ∧ v.Avoids .accountDelegationHistory v' ∧
      v.store.SameData v'.store := by
  obtain ⟨found, hobserved, hupToDate, hsnapshots⟩ := syncDelegations_upToDate hf h hskipped
  have hagain : f.observed c v.store v.cache = .ok (report.epoch, found) := by
    have hsame : v.store.snapshots = w.store.snapshots :=
      (hstore.eq fun s => s.snapshots).trans hsnapshots
    rw [hcache, ← hobserved, hrecalls.observed]
    unfold Replies.observed Replies.inventoryOver Store.snapshotsOf
    rw [hsame]
  have hreplying : v.Replying (fun _ => True) False f v.store v.cache :=
    hf'.replying (.inr ⟨hfaultless, hdeadline⟩)
  have hends := givenObserve c v hreplying
  have havoids := observe_avoids c v
  rw [syncDelegations_eq]
  rcases hobserve : observe c v with ⟨halt | ⟨epoch, found'⟩, v₁⟩ <;>
    rw [hobserve] at hends havoids
  · obtain ⟨hhalt, -⟩ := hends.resolve_left id
    cases hhalt.symm.trans hagain
  · obtain ⟨⟨found₀, hobserved', hperm⟩, k', hreplying'⟩ := hends
    obtain ⟨rfl, rfl⟩ := Prod.mk.inj (Except.ok.inj (hobserved'.symm.trans hagain))
    have hreports : Observation.reports found' = Observation.reports found₀ :=
      Replies.reports_of_observed hobserved' hperm
    rw [← hreports] at hupToDate
    have htraced : Traced False v₁ [] v.store.SameData v₁ :=
      ⟨hreplying'.sound, .refl v₁, hreplying'.data⟩
    have hends := reconcile_upToDate (hupToDate.sameData hstore) c v₁ htraced
    rw [bind_apply_of_ok hobserve]
    dsimp only
    rcases hr : reconcile c report.epoch found' v₁ with ⟨halt | report', v'⟩ <;> rw [hr] at hends
    · exact hends.elim
    · obtain ⟨rfl, htraced'⟩ := hends
      exact ⟨_, v', rfl, rfl, rfl, rfl, rfl, rfl,
        trans_of (Avoids _) havoids htraced'.sends.avoids, htraced'.store⟩

end Run

namespace DelegationCycle

/-- A row of the inventory for either delegate. -/
def inventoryOfTwo : List DelegateSnapshot :=
  [⟨⟨529⟩, firstDelegate, true, true, 5⟩, ⟨⟨529⟩, secondDelegate, true, true, 3⟩]

/-- A cycle that remembers the inventory that is stored, while the lookup of the second delegate
fails. -/
def halfFailing : DelegationCycle SimulatedLedger :=
  let k := meeting ⟨530⟩ ⟨529⟩ ⟨500⟩ firstDelegate
  let failingDelegators := ⟨[(secondDelegate, .client 404 "no such delegate")]⟩
  { k with
    world :=
      { k.world with
        ledger := { k.world.ledger with failingDelegators }
        store := { snapshots := ⟨inventoryOfTwo.map fun r => ((r.epoch, r.delegate), r)⟩ }
        cache := { inventories := ⟨[(⟨529⟩, inventoryOfTwo)]⟩ } } }

theorem halfFailing_recalls :
    Replies.Recalls halfFailing.world.ledger.answer halfFailing.settings halfFailing.world.store
      halfFailing.world.cache := by
  have hstored : halfFailing.world.store.snapshotsOf ⟨529⟩ = inventoryOfTwo := by
    unfold Store.snapshotsOf Store.ofEpoch
    rw [List.mergeSort_of_pairwise (by decide +kernel)]
    decide +kernel
  refine ⟨nofun, fun e rows hrows => ?_⟩
  obtain ⟨rfl, rfl⟩ : e = ⟨529⟩ ∧ rows = inventoryOfTwo := by
    have hmem := Table.mem_entries_of_get? hrows
    exact Prod.mk.inj (List.mem_singleton.mp hmem)
  unfold Replies.inventoryOver
  rw [hstored]
  rfl

/-- The first cycle backfills the address and moves it to the delegate that was observed. Later the
cycle has nothing to do, with half of its lookups failing as before. -/
theorem syncDelegations_repeated_halfFailing :
    let k := halfFailing
    ∃ report w', Run.syncDelegations k.settings k.world = (.ok report, w') ∧
      report.eventsRecorded = 2 ∧ report.failedEntities.length = 1 ∧
      let later := { k.world with store := w'.store, cache := {}, now := ⟨9, 0⟩ }
      ∃ report' v', Run.syncDelegations k.settings later = (.ok report', v') ∧
        report'.epoch = report.epoch ∧ report'.eventsRecorded = 0 ∧ report'.statesRefreshed = 0 ∧
        report'.backfilled = 0 ∧ report'.newAddresses = 0 ∧
        later.Avoids .accountDelegationHistory v' ∧ w'.store.SameData v'.store := by
  intro k
  have hreport : (Run.syncDelegations k.settings k.world).1.toOption.map
      (fun r => (r.backfillSkipped, r.eventsRecorded, r.failedEntities.length)) =
        some (0, 2, 1) := by
    decide +kernel
  rcases hr : Run.syncDelegations k.settings k.world with ⟨_ | report, w'⟩ <;>
    rw [hr] at hreport
  · cases hreport
  · have hcounts := Option.some.inj hreport
    simp only [Prod.mk.injEq] at hcounts
    obtain ⟨hskipped, hevents, hfailed⟩ := hcounts
    have hgiven : Replies.GivenBy k.world.ledger.answer k.world.ledger :=
      (SimulatedLedger.fixed (w := k.world) rfl rfl rfl rfl).replies
    have hfaultless : k.world.Faultless :=
      (SimulatedLedger.fixed (w := k.world) rfl rfl rfl rfl).faultless
    refine ⟨report, w', rfl, hevents, hfailed, ?_⟩
    intro later
    exact Run.syncDelegations_repeated (v := later) hgiven halfFailing_recalls hr hskipped hgiven
      (refl_of Store.SameData w'.store) rfl hfaultless rfl

end DelegationCycle

end GovernanceIndex
