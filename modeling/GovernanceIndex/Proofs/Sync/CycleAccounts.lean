import GovernanceIndex.Proofs.Ledger.View
import GovernanceIndex.Proofs.Sync.CycleOutcome
import Mathlib.Data.List.Perm.Subperm

/-!
The accounts of a cycle. What its report counts is what happened: every lookup ended one way or the
other, every row of a successful lookup counts once, every new address was backfilled or skipped,
and the log grew by the events that are reported. Behind the cycle an address that was reported and
not skipped has the state that the greatest of its reporting delegates gives it; of every other
address the state and the changes are as they were.
-/
namespace GovernanceIndex

namespace Found

variable {found : List Found} {a : StakeAddress} {o : Observation}

/-- A successful lookup has a row for an address. -/
def Reports (found : List Found) (a : StakeAddress) : Prop :=
  ∃ f ∈ successes found, ∃ row ∈ f.2, row.address = a

/-- What counts of the reports on an address: the last row of the greatest delegate that has one. -/
structure Observes (found : List Found) (a : StakeAddress) (o : Observation) : Prop where
  reported : ∃ f ∈ successes found, f.1 = o.delegate ∧
    (f.2.filter fun row => row.address = a).getLast?.map (fun row => row.amount) = some o.amount
  greatest : ∀ f ∈ successes found, (∃ row ∈ f.2, row.address = a) → f.1.le o.delegate = true

theorem delegates_perm (found : List Found) :
    ((successes found).map Prod.fst ++ (failures found).map Prod.fst).Perm
      (found.map fun f => f.delegate) := by
  induction found with
  | nil => exact List.Perm.refl _
  | cons f found ih =>
    obtain ⟨d, cause | rows⟩ := f
    · exact List.perm_middle.trans (ih.cons d)
    · exact ih.cons d

end Found

namespace Observation

variable {found : List Found} {a : StakeAddress} {o : Observation}

theorem mem_latest {reports : List (StakeAddress × Observation)} :
    (a, o) ∈ latest reports ↔
      (reports.filter fun x => x.1 = a).getLast?.map Prod.snd = some o := by
  unfold latest
  rw [List.mem_mergeSort, ← Inventory.get?_latest]
  exact ⟨Table.get?_of_mem_entries (Inventory.latest_nodup reports), Table.mem_entries_of_get?⟩

theorem mem_latest_addresses {reports : List (StakeAddress × Observation)} :
    a ∈ (latest reports).map Prod.fst ↔ a ∈ reports.map Prod.fst := by
  have hperm := (List.mergeSort_perm (Inventory.latest reports).entries
    fun a b => a.1.le b.1).map Prod.fst
  exact hperm.mem_iff.trans Inventory.mem_keys_latest

theorem latest_length_le (reports : List (StakeAddress × Observation)) :
    (latest reports).length ≤ reports.length := by
  have hsub : (latest reports).map Prod.fst ⊆ reports.map Prod.fst :=
    fun _ => mem_latest_addresses.mp
  have hle := (List.subperm_of_subset (latest_nodup reports) hsub).length_le
  rwa [List.length_map, List.length_map] at hle

theorem reports_length (found : List Found) :
    (reports found).length = ((Found.successes found).map fun f => f.2.length).sum := by
  have hperm := (List.mergeSort_perm (Found.successes found) fun a b => a.1.le b.1).map
    fun f => f.2.length
  unfold reports
  rw [List.length_flatMap, ← hperm.sum_nat]
  simp

theorem mem_reports_addresses : a ∈ (reports found).map Prod.fst ↔ Found.Reports found a := by
  unfold reports Found.Reports
  simp only [List.mem_map, List.mem_flatMap, List.mem_mergeSort]
  constructor
  · rintro ⟨x, ⟨f, hf, row, hrow, rfl⟩, rfl⟩
    exact ⟨f, hf, row, hrow, rfl⟩
  · rintro ⟨f, hf, row, hrow, rfl⟩
    exact ⟨_, ⟨f, hf, row, hrow, rfl⟩, rfl⟩

/-- The observation of an address is what the greatest delegate reports on it. -/
theorem observes_of_mem_latest (h : (a, o) ∈ latest (reports found)) :
    Found.Observes found a o := by
  have hpairwise := List.pairwise_reverse.mpr
    (Identifier.pairwise_mergeSort Prod.fst (Found.successes found))
  have hmem (f : DelegateId × List Delegator) : f ∈ Found.successes found ↔
      f ∈ ((Found.successes found).mergeSort fun a b => a.1.le b.1).reverse := by
    rw [List.mem_reverse, List.mem_mergeSort]
  rw [mem_latest] at h
  obtain ⟨⟨b, o'⟩, hlast, rfl⟩ := Option.map_eq_some_iff.mp h
  unfold reports at hlast
  dsimp only at hlast
  rw [List.filter_flatMap, List.getLast?_flatMap, List.findSome?_eq_some_iff] at hlast
  -- The last report on the address comes from `f`; the delegates `after` it have none.
  obtain ⟨after, f, before, hsplit, hf, hnone⟩ := hlast
  rw [hsplit] at hpairwise hmem
  have hrows (g : DelegateId × List Delegator) :
      (g.2.map fun d => (d.address, (⟨g.1, d.amount⟩ : Observation))).filter (fun x => x.1 = a) =
        (g.2.filter fun row => row.address = a).map fun d => (d.address, ⟨g.1, d.amount⟩) :=
    List.filter_map
  rw [hrows, List.getLast?_map] at hf
  obtain ⟨row, hrow, heq⟩ := Option.map_eq_some_iff.mp hf
  obtain ⟨-, rfl⟩ := Prod.mk.inj heq
  constructor
  · refine ⟨f, (hmem f).mpr (by simp), rfl, ?_⟩
    rw [hrow]
    rfl
  · rintro g hg ⟨other, hother, haddress⟩
    obtain ⟨-, hbefore, -⟩ := List.pairwise_append.mp hpairwise
    rcases List.mem_append.mp ((hmem g).mp hg) with hafter | hg
    · have hempty := hnone g hafter
      rw [hrows, List.getLast?_eq_none_iff, List.map_eq_nil_iff, List.filter_eq_nil_iff] at hempty
      exact absurd (decide_eq_true haddress) (hempty other hother)
    · rcases List.mem_cons.mp hg with rfl | hg
      · simpa using Identifier.le_total g.1 g.1
      · exact (List.pairwise_cons.mp hbefore).1 g hg

end Observation

theorem Difference.mem_all {epoch : Epoch} {now : Timestamp}
    {stored : StakeAddress → Option DelegationState} {skipped : List StakeAddress}
    {observed : List (StakeAddress × Observation)} {d : Difference} :
    d ∈ all epoch now stored skipped observed ↔
      ∃ x ∈ observed, x.1 ∉ skipped ∧ of epoch now (stored x.1) x.1 x.2 = some d := by
  unfold all
  rw [List.mem_filterMap]
  refine exists_congr fun x => and_congr_right fun _ => ?_
  by_cases hskipped : x.1 ∈ skipped <;> simp [hskipped]

namespace Store

variable {s : Store} {a : StakeAddress}

theorem applyDifferences_of_ne {ds : List Difference}
    (h : ∀ d ∈ ds, a ≠ d.state.address ∧ ∀ c ∈ d.change.toList, c.address = d.state.address) :
    (s.applyDifferences ds).states.get? a = s.states.get? a ∧
      (s.applyDifferences ds).changesOf a = s.changesOf a := by
  induction ds generalizing s with
  | nil =>
    rw [applyDifferences_nil]
    exact ⟨rfl, rfl⟩
  | cons d ds ih =>
    obtain ⟨⟨hne, hchange⟩, hrest⟩ := List.forall_mem_cons.mp h
    have hone : s.applyDifferences [d] = s.applyChanges d.change.toList [d.state] := by
      unfold applyDifferences
      rw [List.filterMap_cons]
      cases d.change <;> rfl
    obtain ⟨hstates, hchanges⟩ := ih (s := s.applyDifferences [d]) hrest
    rw [← List.singleton_append, applyDifferences_append, hstates, hchanges, hone]
    exact ⟨Difference.get?_apply_of_ne hne, s.applyChanges_changesOf_of_ne _ hchange hne⟩

variable {mayFail : Prop} {Served : StakeAddress → List DelegationUpdate → Prop} {now : Timestamp}
  {epoch : Epoch} {observed : List (StakeAddress × Observation)} {s₀ s₁ : Store} {b : Backfill}

theorem applyDifferences_all_of_ne (epoch : Epoch) (now : Timestamp) (s : Store)
    (ha : a ∉ observed.map Prod.fst ∨ a ∈ b.skipped) :
    let ds := Difference.all epoch now s.states.get? b.skipped observed
    (s.applyDifferences ds).states.get? a = s.states.get? a ∧
      (s.applyDifferences ds).changesOf a = s.changesOf a := by
  apply applyDifferences_of_ne
  intro d hd
  obtain ⟨x, hx, hskipped, hof⟩ := Difference.mem_all.mp hd
  rw [Difference.of_address hof]
  refine ⟨?_, fun c hc => (Difference.of_change hof c hc).1⟩
  rintro rfl
  rcases ha with ha | ha
  · exact ha (List.mem_map_of_mem hx)
  · exact hskipped ha

namespace Reconciled

open Difference (Settled)

theorem untouched (h : Reconciled mayFail Served now epoch observed s₀ b s₁ s)
    (hnodup : (observed.map Prod.fst).Nodup)
    (ha : a ∉ observed.map Prod.fst ∨ a ∈ b.skipped) :
    s.states.get? a = s₀.states.get? a ∧ s.changesOf a = s₀.changesOf a := by
  have hprocessed : a ∉ b.processed := by
    intro hmem
    have hnew : (b.processed ++ b.skipped).Nodup := h.split ▸ hnodup.filter _
    rcases ha with ha | ha
    · have hfresh : a ∈ s₀.newAddresses observed := h.split ▸ List.mem_append_left _ hmem
      exact ha (List.mem_filter.mp hfresh).1
    · exact (List.nodup_append.mp hnew).2.2 a hmem a ha rfl
  obtain ⟨hstates, hchanges⟩ := applyDifferences_all_of_ne epoch now s₁ ha
  constructor
  · rw [h.differed.eq fun s => s.states, hstates]
    exact h.backfilled.content.get?_of_not_mem hprocessed
  · rw [h.differed.eq fun s => s.changesOf a, hchanges]
    exact h.backfilled.content.changesOf_of_not_mem hprocessed

theorem settled (h : Reconciled mayFail Served now epoch observed s₀ b s₁ s)
    (hnodup : (observed.map Prod.fst).Nodup) {x : StakeAddress × Observation} (hx : x ∈ observed)
    (hskipped : x.1 ∉ b.skipped) : Settled epoch x.2 (s.states.get? x.1) := by
  have htrivial : CycleInvariant epoch observed (fun _ _ => True) fun _ => True :=
    ⟨fun _ _ _ _ => trivial, fun _ _ _ _ _ _ _ _ => trivial, fun _ _ _ _ _ _ _ _ => trivial⟩
  have hdue : Difference.Due epoch now observed (fun _ _ => True) b.skipped
      (Difference.all epoch now s₁.states.get? b.skipped observed) s₁ :=
    Difference.all_due hnodup (fun _ _ => rfl) fun _ _ _ _ => trivial
  rw [← List.append_nil (Difference.all _ _ _ _ _)] at hdue
  obtain ⟨-, hdone⟩ := hdue.batch htrivial hnodup trivial
  rw [h.differed.eq fun s => s.states]
  rcases hdone.rest x hx hskipped with hsettled | ⟨d, hd, -⟩
  · exact hsettled
  · cases hd

theorem changes (h : Reconciled mayFail Served now epoch observed s₀ b s₁ s) :
    ∃ events, s.changes = s₀.changes ++ events ∧ events.length = b.changes +
      (Difference.all epoch now s₁.states.get? b.skipped observed).countP
        fun d => d.change.isSome := by
  set ds := Difference.all epoch now s₁.states.get? b.skipped observed
  obtain ⟨replayed, hreplayed⟩ : s₀.changes <+: s₁.changes := h.backfilled.content.changes_prefix
  have hcount := h.backfilled.changes
  rw [← hreplayed, List.length_append, Nat.add_left_cancel_iff] at hcount
  have hwritten : (ds.filterMap fun d => d.change).length = ds.countP fun d => d.change.isSome := by
    rw [List.length_filterMap_eq_countP]
  refine ⟨replayed ++ ds.filterMap fun d => d.change, ?_, ?_⟩
  · rw [h.differed.eq fun s => s.changes, ← List.append_assoc, hreplayed]
    rfl
  · rw [List.length_append, hcount, hwritten]

end Reconciled

end Store

theorem Lookup.turn_triple {L : Type} [LedgerService L] {epoch : Option Epoch} (x : Lookup epoch) :
    Run.Triple (fun _ => True) (x.turn : Run L (Turn (Lookup epoch) Found))
      (fun t _ => FanOut.Proceeds (fun x => x.delegate) (fun _ => True)
        (fun d (f : Found) => f.delegate = d) (fun x => x.read.rank) x t ∧ True)
      fun _ => True := by
  apply Run.Triple.bind (Q := fun t _ => ∀ read delay, t = .goOn read delay →
    read.rank < x.read.rank)
  · apply Run.Triple.bind (Q := fun _ _ => True) fun w _ => trivial
    intro reply
    exact Run.Triple.pure fun w _ read delay hreceive => PageRead.receive_rank hreceive
  · intro t
    rcases t with reply | ⟨read, delay⟩
    · exact Run.Triple.pure fun w _ => ⟨rfl, trivial⟩
    · exact Run.Triple.pure fun w hrank => ⟨⟨rfl, trivial, hrank read delay rfl⟩, trivial⟩

theorem Run.lookup_delegates {L : Type} [LedgerService L] (c : Settings) (limit : Nat)
    (epoch : Option Epoch) (ids : List DelegateId) :
    Triple (fun _ => True) (Lookup.run c limit epoch ids : Run L (List Found))
      (fun found _ => (found.map fun f => f.delegate).Perm ids) fun _ => True := by
  have hwait (time : Nat) :
      Triple (fun _ => True) (Run.waitUntil time : Run L Unit) (fun _ _ => True) fun _ => True :=
    (Passes.waitUntil time).triple fun _ _ _ _ => trivial
  apply Triple.bind (FanOut.run_triple hwait (fun x _ => Lookup.turn_triple x) limit
    fun _ _ => trivial)
  intro f
  refine Triple.pure fun w hw => ?_
  obtain ⟨⟨ended, hended, hperm⟩, -⟩ := hw
  have hdelegates : ended = (f.finished.map Prod.snd).map fun f => f.delegate := by
    rw [← List.forall₂_eq_eq_eq, List.forall₂_map_right_iff]
    exact hended.imp fun _ _ => Eq.symm
  rw [← hdelegates]
  rw [List.map_map] at hperm
  simpa [Lookup.start, Function.comp_def] using hperm

open Found (Reports Observes)

/-- What a report says and what became of the store, given what the lookups of the cycle came to and
which addresses the backfill skipped. -/
structure DelegationsReport.Accounts (report : DelegationsReport) (found : List Found)
    (skipped : List StakeAddress) (s s' : Store) : Prop where
  observed : ∀ a, Reports found a → a ∉ skipped → ∃ o, Observes found a o ∧
    (s'.states.get? a).map (fun x => (x.delegate, x.amount, x.epochObserved)) =
      some (o.delegate, some o.amount, report.epoch)
  untouched : ∀ a, ¬ Reports found a ∨ a ∈ skipped →
    s'.states.get? a = s.states.get? a ∧ s'.changesOf a = s.changesOf a
  backfill : ∃ backfilled : List StakeAddress, (backfilled ++ skipped).Nodup ∧
    (∀ a, a ∈ backfilled ++ skipped ↔ Reports found a ∧ s.states.get? a = none) ∧
    backfilled.length = report.backfilled ∧ skipped.length = report.backfillSkipped
  events : ∃ events, s'.changes = s.changes ++ events ∧ events.length = report.eventsRecorded
  addresses : report.newAddresses = report.backfilled + report.backfillSkipped
  rows : report.observed + report.duplicateObservations =
    ((Found.successes found).map fun f => f.2.length).sum

theorem DelegationsReport.of_failedEntities (epoch : Epoch) (found : List Found)
    (new : List StakeAddress) (full : Bool) (b : Backfill) (ds : List Difference) :
    (of epoch found new full b ds).failedEntities.map Prod.fst =
      (Found.failures found).map Prod.fst := by
  unfold of
  dsimp only
  rw [List.map_map]
  rfl

/-- A store that was reconciled bears its report out. -/
theorem Store.Reconciled.accounts {Served : StakeAddress → List DelegationUpdate → Prop}
    {mayFail full : Prop} [Decidable full] {now : Timestamp} {epoch : Epoch} {found : List Found}
    {s₀ s₁ s : Store} {b : Backfill}
    (h : Reconciled mayFail Served now epoch (Observation.latest (Observation.reports found)) s₀ b
      s₁ s) :
    (DelegationsReport.of epoch found
      (s₀.newAddresses (Observation.latest (Observation.reports found))) full b
      (Difference.all epoch now s₁.states.get? b.skipped
        (Observation.latest (Observation.reports found)))).Accounts found b.skipped s₀ s := by
  have hnodup := Observation.latest_nodup (Observation.reports found)
  have haddresses (a : StakeAddress) :
      a ∈ (Observation.latest (Observation.reports found)).map Prod.fst ↔ Reports found a :=
    Observation.mem_latest_addresses.trans Observation.mem_reports_addresses
  constructor
  · intro a ha hskipped
    obtain ⟨⟨a, o⟩, hx, rfl⟩ := List.mem_map.mp ((haddresses a).mpr ha)
    obtain ⟨x, hget, hdelegate, hamount, hepoch⟩ := h.settled hnodup hx hskipped
    refine ⟨o, Observation.observes_of_mem_latest hx, ?_⟩
    rw [hget, Option.map_some, hdelegate, hamount, hepoch]
    rfl
  · intro a ha
    exact h.untouched hnodup (ha.imp_left (haddresses a).not.mpr)
  · refine ⟨b.processed, ?_, fun a => ?_, rfl, rfl⟩
    · rw [h.split]
      exact hnodup.filter _
    · rw [h.split, ← haddresses, ← Option.isNone_iff_eq_none]
      exact List.mem_filter
  · exact h.changes
  · change (s₀.newAddresses _).length = b.processed.length + b.skipped.length
    rw [← h.split, List.length_append]
  · rw [← Observation.reports_length]
    exact Nat.add_sub_cancel' (Observation.latest_length_le _)

/-- A cycle that ends observed and then brought the store in line with that, and reports on it. -/
theorem Run.syncDelegations_reconciled {L : Type} [LedgerService L] {c : Settings} {w w' : World L}
    {report : DelegationsReport} (h : syncDelegations c w = (.ok report, w')) :
    ∃ found w₁ b s₁,
      let observed := Observation.latest (Observation.reports found)
      let new := w.store.newAddresses observed
      observe c w = (.ok (report.epoch, found), w₁) ∧
      reconcile c report.epoch found w₁ = (.ok report, w') ∧
      Store.Reconciled True (fun _ _ => True) w₁.now report.epoch observed w.store b s₁ w'.store ∧
      report = .of report.epoch found new
        (decide (w.store.backfillJob? new = some fullBackfillJob)) b
        (Difference.all report.epoch w₁.now s₁.states.get? b.skipped observed) := by
  rw [syncDelegations_eq] at h
  obtain ⟨⟨epoch, found⟩, w₁, hobserve, hreconcile⟩ := exists_of_bind_ok h
  have hdata : w.store.SameData w₁.store := by
    have hreads := Reads.observe c w
    rw [hobserve] at hreads
    exact hreads.data
  have hserve : HistoriesServe (fun _ _ => True) fun _ _ => True := fun _ _ _ _ _ => trivial
  have hstage : World.Stage True (fun _ _ => True) w₁.now w.store.SameData w₁ :=
    ⟨rfl, LedgerService.answers_trivial w₁.ledger, .inl trivial, hdata⟩
  obtain ⟨b, s₁, hreconciled, hreport⟩ := (reconcile_outcome hserve c found).ok hstage hreconcile
  have hepoch : report.epoch = epoch := congrArg DelegationsReport.epoch hreport
  subst hepoch
  exact ⟨found, w₁, b, s₁, hobserve, hreconcile, hreconciled, hreport⟩

namespace DelegationCycle

/-- If a cycle ends, it read the inventory of its epoch and looked up just the delegates with voting
power in it, each of which succeeded or is reported as failed; and its report bears out what it made
of the store. -/
theorem syncDelegations_accounts {L : Type} [LedgerService L] {c : Settings} {w w' : World L}
    {report : DelegationsReport} (h : Run.syncDelegations c w = (.ok report, w')) :
    ∃ w₁ w₂ w₃ rows found skipped,
      Run.latestCompleted c w = (.ok report.epoch, w₁) ∧
      Run.inventory c report.epoch w₁ = (.ok rows, w₂) ∧
      Lookup.run c c.delegationConcurrency none (Inventory.targets rows) w₂ = (.ok found, w₃) ∧
      ((Found.successes found).map Prod.fst ++ report.failedEntities.map Prod.fst).Perm
        (Inventory.targets rows) ∧
      report.Accounts found skipped w.store w'.store := by
  obtain ⟨found, w₃, b, s₁, hobserve, -, hreconciled, hreport⟩ := Run.syncDelegations_reconciled h
  obtain ⟨epoch, w₁, hepoch, hobserve⟩ := Run.exists_of_bind_ok hobserve
  obtain ⟨rows, w₂, hrows, hobserve⟩ := Run.exists_of_bind_ok hobserve
  obtain ⟨found', w₄, hlookup, hpure⟩ := Run.exists_of_bind_ok hobserve
  obtain ⟨⟨rfl, rfl⟩, rfl⟩ : (epoch = report.epoch ∧ found' = found) ∧ w₄ = w₃ := by
    obtain ⟨hresult, rfl⟩ := Prod.mk.inj hpure
    exact ⟨Prod.mk.inj (Except.ok.inj hresult), rfl⟩
  have haccounts : report.Accounts found' b.skipped w.store w'.store := by
    rw [hreport]
    exact hreconciled.accounts
  refine ⟨w₁, w₂, w₄, rows, found', b.skipped, hepoch, hrows, hlookup, ?_, haccounts⟩
  rw [hreport]
  have hended := (Run.lookup_delegates c _ none (Inventory.targets rows)).ok trivial hlookup
  rw [DelegationsReport.of_failedEntities]
  exact (Found.delegates_perm found').trans hended

/-- A cycle that observes an address twice behind one delegate, with different amounts, while its
history names another delegate. -/
def repeating : DelegationCycle SimulatedLedger :=
  let k := meeting ⟨530⟩ ⟨529⟩ ⟨500⟩ firstDelegate
  let delegators := ⟨[(firstDelegate, [⟨delegator, 10⟩, ⟨delegator, 30⟩])]⟩
  { k with world := { k.world with ledger := { k.world.ledger with delegators } } }

/-- The address is backfilled and then changes its delegate, and its first row is a duplicate. -/
theorem syncDelegations_accounts_repeating :
    ∃ report w', Run.syncDelegations repeating.settings repeating.world = (.ok report, w') ∧
      report.observed = 1 ∧ report.duplicateObservations = 1 ∧ report.backfilled = 1 ∧
      report.eventsRecorded = 2 ∧
      ∃ found skipped, report.Accounts found skipped repeating.world.store w'.store := by
  have hreport : (Run.syncDelegations repeating.settings repeating.world).1.toOption.map
      (fun r => (r.observed, r.duplicateObservations, r.backfilled, r.eventsRecorded)) =
        some (1, 1, 1, 2) := by
    decide +kernel
  rcases hr : Run.syncDelegations repeating.settings repeating.world with ⟨_ | report, w'⟩ <;>
    rw [hr] at hreport
  · cases hreport
  · obtain ⟨-, -, -, -, found, skipped, -, -, -, -, haccounts⟩ := syncDelegations_accounts hr
    have hcounts := Option.some.inj hreport
    simp only [Prod.mk.injEq] at hcounts
    obtain ⟨hobserved, hduplicates, hbackfilled, hevents⟩ := hcounts
    exact ⟨report, w', rfl, hobserved, hduplicates, hbackfilled, hevents, found, skipped,
      haccounts⟩

end DelegationCycle

end GovernanceIndex
