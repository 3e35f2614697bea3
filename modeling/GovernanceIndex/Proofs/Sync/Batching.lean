import GovernanceIndex.Proofs.Run.Agreement
import GovernanceIndex.Proofs.Store.Alike
import GovernanceIndex.Proofs.Sync.FixedReplies

/-!
Batches and concurrency do not show. Against a service that replies in a fixed way, and has one
history for each address however addresses are batched, two cycles over stores that are alike come
to the same report, up to the order of the lookups that failed, and leave stores that are alike: how
many lookups run at once, in which order they end, and how histories and differences are cut into
batches makes no other difference.
-/
namespace GovernanceIndex

open Store (Alike Reconciled)
open World (Fixed)

section

variable {f : Replies} {pageSize : Nat} {epoch : Option Epoch} {ids : List DelegateId}
  {found : List Found} (h : found.Perm (f.found pageSize epoch ids))
include h

theorem Replies.reply_of_mem {x : Found} (hx : x ∈ found) :
    x.reply = f.rows pageSize (.delegators x.delegate epoch) := by
  obtain ⟨d, -, rfl⟩ := List.mem_map.mp (h.mem_iff.mp hx)
  rfl

theorem Replies.reply_of_mem_successes {x : DelegateId × List Delegator}
    (hx : x ∈ Found.successes found) :
    f.rows pageSize (.delegators x.1 epoch) = .ok x.2 := by
  obtain ⟨⟨d, reply⟩, hfound, hsome⟩ := List.mem_filterMap.mp hx
  have hreply : reply = f.rows pageSize (.delegators d epoch) := Replies.reply_of_mem h hfound
  rcases reply with cause | rows
  · cases hsome
  · obtain rfl := Option.some.inj hsome
    exact hreply.symm

theorem Replies.reports_perm :
    Observation.reports found = Observation.reports (f.found pageSize epoch ids) := by
  have hsorted : ((Found.successes found).mergeSort fun a b => a.1.le b.1) =
      (Found.successes (f.found pageSize epoch ids)).mergeSort fun a b => a.1.le b.1 := by
    apply Identifier.mergeSort_eq_of_perm (h.filterMap _)
    intro x hx y hy hxy
    have hrows := (Replies.reply_of_mem_successes h hx).symm.trans
      (hxy ▸ Replies.reply_of_mem_successes (List.Perm.refl _) hy)
    exact Prod.ext hxy (Except.ok.inj hrows)
  unfold Observation.reports
  rw [hsorted]

end

theorem Difference.all_untimed {epoch : Epoch} (now now' : Timestamp)
    (stored : StakeAddress → Option DelegationState) (skipped : List StakeAddress)
    (observed : List (StakeAddress × Observation)) :
    (all epoch now stored skipped observed).map untimed =
      (all epoch now' stored skipped observed).map untimed := by
  unfold all
  rw [List.map_filterMap, List.map_filterMap]
  congr 1
  funext ⟨a, o⟩
  dsimp only
  split
  · rfl
  · exact of_untimed epoch now now' (stored a) a o

section

variable {ds ds' : List Difference} (hds : ds'.map Difference.untimed = ds.map Difference.untimed)
include hds

theorem Difference.length_of_untimed : ds'.length = ds.length := by
  simpa using congrArg List.length hds

theorem Difference.countP_of_untimed :
    ds'.countP (fun d => d.change.isSome) = ds.countP fun d => d.change.isSome := by
  simpa [List.countP_map, Function.comp_def, untimed] using
    congrArg (List.countP fun x => x.2.isSome) hds

theorem Store.Alike.applyDifferences {s s' : Store} (h : s.Alike s') :
    (s.applyDifferences ds).Alike (s'.applyDifferences ds') := by
  have hstates : ds'.map (fun d => d.state) = ds.map fun d => d.state := by
    simpa [Function.comp_def, Difference.untimed] using congrArg (List.map Prod.fst) hds
  have hchanges : (ds'.filterMap fun d => d.change).map DelegationChange.untimed =
      (ds.filterMap fun d => d.change).map DelegationChange.untimed := by
    simpa [List.filterMap_map, List.map_filterMap, Function.comp_def, Difference.untimed]
      using congrArg (List.filterMap Prod.snd) hds
  unfold Store.applyDifferences
  rw [hstates]
  exact h.applyChanges hchanges _

end

namespace Store

variable {Served : StakeAddress → List DelegationUpdate → Prop} {now now' : Timestamp}
  {epoch : Epoch} {observed : List (StakeAddress × Observation)} {s s' s₁ s₁' t t' : Store}
  {b b' : Backfill}

theorem Alike.newAddresses (h : s.Alike s') (observed : List (StakeAddress × Observation)) :
    s'.newAddresses observed = s.newAddresses observed := by
  unfold Store.newAddresses
  rw [h.states]

theorem Alike.backfillJob? (h : s.Alike s') (new : List StakeAddress) :
    s'.backfillJob? new = s.backfillJob? new := by
  have hfull : (¬ s'.Finished ∧ (s'.Begun ∨ s'.Blank)) ↔ ¬ s.Finished ∧ (s.Begun ∨ s.Blank) := by
    unfold Finished isBackfillDone Begun Blank
    rw [h.states, h.cursors, h.finishedBackfills]
  unfold Store.backfillJob?
  simp only [hfull]

theorem Alike.overflows_iff (h : s.Alike s') (new : List StakeAddress) :
    s'.Overflows new ↔ s.Overflows new := by
  unfold Store.Overflows backfillTotal?
  rw [h.backfillJob?, h.cursors]

theorem Alike.closeBackfill (h : s.Alike s') (job : Option String) :
    (s.closeBackfill job).cursors = (s'.closeBackfill job).cursors ∧
      (s.closeBackfill job).finishedBackfills = (s'.closeBackfill job).finishedBackfills := by
  unfold Store.closeBackfill
  cases job <;> simp only [h.cursors, h.finishedBackfills, and_self]

theorem Alike.of_content (h : s.content.Alike s'.content) (hcursors : s'.cursors = s.cursors)
    (hfinished : s'.finishedBackfills = s.finishedBackfills) : s.Alike s' :=
  ⟨h.checkpoints, h.snapshots, h.totals, h.summaries, h.states, h.changes, hcursors, hfinished,
    h.proposals⟩

theorem Alike.content (h : s.Alike s') : s.content.Alike s'.content :=
  ⟨h.checkpoints, h.snapshots, h.totals, h.summaries, h.states, h.changes, rfl, rfl, h.proposals⟩

/-- Stores that are alike are reconciled with the same observations to such, by equal backfills and
by differences that are equal apart from times. -/
theorem Reconciled.alike (hserved : ∀ a us us', Served a us → Served a us' → us = us')
    (h : Reconciled False Served now epoch observed s b s₁ t)
    (h' : Reconciled False Served now' epoch observed s' b' s₁' t') (hs : s.Alike s') :
    t.Alike t' ∧ b' = b ∧
      (Difference.all epoch now' s₁'.states.get? b'.skipped observed).map Difference.untimed =
        (Difference.all epoch now s₁.states.get? b.skipped observed).map Difference.untimed := by
  have hskipped : b.skipped = [] := h.complete.resolve_left id
  have hskipped' : b'.skipped = [] := h'.complete.resolve_left id
  have hprocessed : b.processed = s.newAddresses observed := by
    rw [← h.split, hskipped, List.append_nil]
  have hprocessed' : b'.processed = s.newAddresses observed := by
    rw [← hs.newAddresses, ← h'.split, hskipped', List.append_nil]
  have hcontent : s₁.content.Alike s₁'.content := by
    have hreplays := h.backfilled.content
    have hreplays' := h'.backfilled.content
    rw [hprocessed] at hreplays
    rw [hprocessed'] at hreplays'
    exact hreplays.alike hserved hreplays' hs.content
  have hbackfilled : s₁.Alike s₁' := by
    obtain ⟨hcursors, hfinished⟩ := h.backfilled.books hskipped
    obtain ⟨hcursors', hfinished'⟩ := h'.backfilled.books hskipped'
    rw [hs.newAddresses, hs.backfillJob?] at hcursors' hfinished'
    obtain ⟨hclosed, hclosed'⟩ := hs.closeBackfill (s.backfillJob? (s.newAddresses observed))
    exact .of_content hcontent (hcursors'.trans (hclosed.symm.trans hcursors.symm))
      (hfinished'.trans (hclosed'.symm.trans hfinished.symm))
  have hb : b' = b := by
    have hchanges : b'.changes = b.changes := by
      have hlength := hbackfilled.changes_length
      rw [h.backfilled.changes, h'.backfilled.changes, hs.changes_length] at hlength
      exact Nat.add_left_cancel hlength
    cases b
    cases b'
    simp only [Backfill.mk.injEq]
    exact ⟨hprocessed'.trans hprocessed.symm, hskipped'.trans hskipped.symm, hchanges⟩
  subst hb
  have hds : (Difference.all epoch now' s₁'.states.get? b'.skipped observed).map
        Difference.untimed =
      (Difference.all epoch now s₁.states.get? b'.skipped observed).map Difference.untimed := by
    rw [hbackfilled.states]
    exact Difference.all_untimed now' now _ _ _
  refine ⟨?_, rfl, hds⟩
  have happlied := hbackfilled.applyDifferences hds
  exact trans_of Alike (trans_of Alike (Alike.of_sameData h.differed).symm happlied)
    (.of_sameData h'.differed)

end Store

/-- Reports agree up to the order in which lookups failed. -/
structure DelegationsReport.Alike (r r' : DelegationsReport) : Prop where
  failedEntities : r'.failedEntities.Perm r.failedEntities
  others : r' = { r with failedEntities := r'.failedEntities }

/-- The order in which lookups ended shows in the order of the failed ones only, and the times of
changes do not show. -/
theorem DelegationsReport.of_alike {epoch : Epoch} {found found' : List Found}
    (hfound : found'.Perm found)
    (hreports : Observation.reports found' = Observation.reports found)
    (new : List StakeAddress) (full : Bool) (b : Backfill) {ds ds' : List Difference}
    (hds : ds'.map Difference.untimed = ds.map Difference.untimed) :
    (of epoch found new full b ds).Alike (of epoch found' new full b ds') where
  failedEntities := (hfound.filterMap _).map _
  others := by
    unfold of
    rw [hreports, Difference.length_of_untimed hds, Difference.countP_of_untimed hds]

variable {L : Type} [LedgerService L] {f : Replies} {s s' : Store} {k k' : JobCache}
  {history : StakeAddress → List DelegationUpdate}

theorem Replies.ServesHistories.serve (hf : f.ServesHistories history) :
    HistoriesServe (fun q a => f q = .ok a) fun a us => us = history a := by
  intro addresses hs hreply a ha
  obtain ⟨hs', hreply', hhistory⟩ := hf addresses
  obtain rfl := Except.ok.inj (hreply.symm.trans hreply')
  exact hhistory a ha

theorem World.Fixed.stage (hf : f.ServesHistories history) {w : World L} (hw : w.Fixed f s k) :
    w.Stage False (fun q a => f q = .ok a) w.now s.SameData where
  now := rfl
  answers l hl q a ha := (hw.replies l hl q).symm.trans ha
  sound := by
    refine .inr ⟨hw.faultless, hw.deadline, hw.quota, fun l hl addresses => ?_⟩
    obtain ⟨hs, hreply, -⟩ := hf addresses
    rw [hw.replies l hl, hreply]
    rfl
  store := hw.data

theorem Replies.exists_of_observed {c : Settings} {epoch : Epoch} {found : List Found}
    (h : f.observed c s k = .ok (epoch, found)) : ∃ ids, found = f.found c.pageSize none ids := by
  unfold Replies.observed at h
  rcases htip : Replies.halting (f.knownTip k) with halt | tip <;> rw [htip] at h
  · cases h
  · rcases hepoch : tip.prev? with _ | e <;>
      simp only [hepoch, bind, Except.bind, throw, throwThe, MonadExceptOf.throw] at h
    · cases h
    · rcases hrows : Replies.halting (f.inventoryOver c s k e) with halt | rows <;>
        rw [hrows] at h
      · cases h
      · exact ⟨_, (congrArg Prod.snd (Except.ok.inj h)).symm⟩

theorem Replies.reports_of_observed {c : Settings} {epoch : Epoch} {found found' : List Found}
    (h : f.observed c s k = .ok (epoch, found)) (hperm : found'.Perm found) :
    Observation.reports found' = Observation.reports found := by
  obtain ⟨ids, rfl⟩ := exists_of_observed h
  exact reports_perm hperm

/-- A cycle cannot be run to its end: it cannot observe, or has too many addresses to count. -/
def Replies.Stops (f : Replies) (c : Settings) (s : Store) (k : JobCache) (halt : Halt) : Prop :=
  f.observed c s k = .error halt ∨ ∃ epoch found, f.observed c s k = .ok (epoch, found) ∧
    s.Overflows (s.newAddresses (Observation.latest (Observation.reports found))) ∧
    halt = .crashed (some "attempt to add with overflow")

/-- What a cycle comes to against fixed replies, with the store that it leaves: it stops without a
trace, or it observes, reconciles the store with that and reports on it and on the order in which
its lookups ended. -/
def Replies.CycleComes (f : Replies) (history : StakeAddress → List DelegationUpdate)
    (c : Settings) (s : Store) (k : JobCache) : Except Halt DelegationsReport → Store → Prop
  | .error halt, t => f.Stops c s k halt ∧ s.SameData t
  | .ok report, t => ∃ epoch found ended now b s₁, f.observed c s k = .ok (epoch, found) ∧
    ended.Perm found ∧
    let observed := Observation.latest (Observation.reports found)
    let new := s.newAddresses observed
    Reconciled False (fun a us => us = history a) now epoch observed s b s₁ t ∧
    report = .of epoch ended new (decide (s.backfillJob? new = some fullBackfillJob)) b
      (Difference.all epoch now s₁.states.get? b.skipped observed)

section

variable {c c' : Settings} (hobserved : f.observed c' s' k' = f.observed c s k)
include hobserved

theorem Replies.Stops.unique {halt halt' : Halt} (h : f.Stops c s k halt)
    (h' : f.Stops c' s' k' halt') : halt' = halt := by
  unfold Replies.Stops at h h'
  rw [hobserved] at h'
  rcases h with h | ⟨epoch, found, h, -, rfl⟩ <;> rcases h' with h' | ⟨epoch', found', h', -, rfl⟩
  · exact Except.error.inj (h'.symm.trans h)
  · exact nomatch h'.symm.trans h
  · exact nomatch h'.symm.trans h
  · rfl

variable (hs : s.Alike s')
include hs

theorem Replies.Stops.overflows {halt : Halt} (h : f.Stops c s k halt) {epoch : Epoch}
    {found : List Found} (hfound : f.observed c' s' k' = .ok (epoch, found)) :
    s'.Overflows (s'.newAddresses (Observation.latest (Observation.reports found))) := by
  rw [hobserved] at hfound
  rcases h with h | ⟨epoch', found', h, hoverflows, -⟩
  · exact nomatch h.symm.trans hfound
  · obtain ⟨-, rfl⟩ := Prod.mk.inj (Except.ok.inj (h.symm.trans hfound))
    rw [hs.newAddresses]
    exact (hs.overflows_iff _).mpr hoverflows

/-- What a cycle comes to is decided by what it observes and by what its store is like. -/
theorem Replies.CycleComes.unique {r r' : Except Halt DelegationsReport} {t t' : Store}
    (h : f.CycleComes history c s k r t) (h' : f.CycleComes history c' s' k' r' t') :
    Run.Matches DelegationsReport.Alike r r' ∧ t.Alike t' := by
  -- Whether a cycle stops is a matter of what it observes and of the store, so both stop or none.
  rcases r with halt | report <;> rcases r' with halt' | report'
  · obtain ⟨hstops, hdata⟩ := h
    obtain ⟨hstops', hdata'⟩ := h'
    have halike := trans_of Alike (Alike.of_sameData hdata).symm hs
    exact ⟨hstops.unique hobserved hstops', trans_of Alike halike (.of_sameData hdata')⟩
  · obtain ⟨epoch, found, ended, now, b, s₁, hfound, -, hreconciled, -⟩ := h'
    exact absurd (h.1.overflows hobserved hs hfound) hreconciled.counted
  · obtain ⟨epoch, found, ended, now, b, s₁, hfound, -, hreconciled, -⟩ := h
    exact absurd (h'.1.overflows hobserved.symm hs.symm hfound) hreconciled.counted
  · obtain ⟨epoch, found, ended, now, b, s₁, hfound, hended, hreconciled, rfl⟩ := h
    obtain ⟨epoch', found', ended', now', b', s₁', hfound', hended', hreconciled', rfl⟩ := h'
    rw [hobserved] at hfound'
    obtain ⟨rfl, rfl⟩ := Prod.mk.inj (Except.ok.inj (hfound.symm.trans hfound'))
    have hreports := (Replies.reports_of_observed hfound hended').trans
      (Replies.reports_of_observed hfound hended).symm
    have hserved (a : StakeAddress) (us us' : List DelegationUpdate) (hus : us = history a)
        (hus' : us' = history a) : us = us' := hus.trans hus'.symm
    obtain ⟨halike, rfl, hds⟩ := hreconciled.alike hserved hreconciled' hs
    refine ⟨?_, halike⟩
    rw [hs.newAddresses, hs.backfillJob?]
    exact DelegationsReport.of_alike (hended'.trans hended.symm) hreports _ _ _ hds

end

namespace Run

/-- Runs a cycle whose lookups end in the order that they are put in. -/
def syncDelegationsIn (order : List Found → List Found) (c : Settings) :
    Run L DelegationsReport := do
  let (epoch, found) ← observe c
  reconcile c epoch (order found)

theorem syncDelegationsIn_id (c : Settings) :
    (syncDelegationsIn id c : Run L DelegationsReport) = syncDelegations c :=
  (syncDelegations_eq c).symm

/-- A cycle comes to what the replies say in whatever order its lookups end. -/
theorem cycleComes (hf : f.ServesHistories history) {order : List Found → List Found}
    (horder : ∀ found, (order found).Perm found) (c : Settings) {w : World L}
    (hw : w.Fixed f s k) :
    f.CycleComes history c s k (syncDelegationsIn order c w).1
      (syncDelegationsIn order c w).2.store := by
  have hcycle : Outcomes (Fixed f s k) (syncDelegationsIn order c : Run L DelegationsReport)
      (fun report w => f.CycleComes history c s k (.ok report) w.store)
      (fun halt w => f.CycleComes history c s k (.error halt) w.store) := by
    apply Outcomes.bind ((fixedObserve c).mono (fun _ => id) (fun _ _ => id) _)
    · rintro ⟨epoch, found⟩ w ⟨⟨found₀, hobserved, hperm⟩, k', hw⟩
      have hordered := (horder found).trans hperm
      have hreports := Replies.reports_of_observed hobserved hordered
      have hreconcile : Outcomes (World.Stage False _ w.now s.SameData)
          (reconcile c epoch (order found) : Run L DelegationsReport) _ _ :=
        reconcile_outcome hf.serve c (order found)
      have hends := hreconcile w (hw.stage hf)
      rw [hreports] at hends
      dsimp only
      rcases hr : reconcile c epoch (order found) w with ⟨halt | report, w'⟩ <;> rw [hr] at hends
      · obtain ⟨hoverflows, rfl, hdata⟩ := hends.resolve_left id
        exact ⟨.inr ⟨epoch, _, hobserved, hoverflows, rfl⟩, hdata⟩
      · obtain ⟨b, s₁, hreconciled, rfl⟩ := hends
        exact ⟨epoch, found₀, order found, w.now, b, s₁, hobserved, hordered, hreconciled, rfl⟩
    · rintro halt w ⟨hobserved, k', hw⟩
      exact ⟨.inl hobserved, hw.data⟩
  have hends := hcycle w hw
  rcases hr : syncDelegationsIn order c w with ⟨halt | report, w'⟩ <;> rw [hr] at hends <;>
    exact hends

/-- Two cycles over stores that are alike, whose settings agree but for their limits and batch sizes
and whose lookups end in any orders, come to reports that agree up to the order of the failed
lookups, or halt alike, and leave stores that are alike. -/
theorem syncDelegations_batching (hf : f.ServesHistories history) {c c' : Settings}
    (hpages : c'.pageSize = c.pageSize) (hinfos : c'.infoBatchSize = c.infoBatchSize)
    {order order' : List Found → List Found} (horder : ∀ found, (order found).Perm found)
    (horder' : ∀ found, (order' found).Perm found) (hs : s.Alike s') {w w' : World L}
    (hw : w.Fixed f s k) (hw' : w'.Fixed f s' k) :
    Matches DelegationsReport.Alike (syncDelegationsIn order c w).1
        (syncDelegationsIn order' c' w').1 ∧
      (syncDelegationsIn order c w).2.store.Alike (syncDelegationsIn order' c' w').2.store := by
  have hobserved : f.observed c' s' k = f.observed c s k := by
    unfold Replies.observed Replies.inventoryOver Replies.inventory Store.snapshotsOf
    rw [hs.snapshots, hpages, hinfos]
  exact (cycleComes hf horder c hw).unique hobserved hs (cycleComes hf horder' c' hw')

end Run

namespace DelegationCycle

/-- A cycle that backfills an address and then changes its delegate, while the lookups of two other
delegates fail; once with batches and limits as they are by default, and once with the least ones,
later and with its lookups turned around. -/
theorem syncDelegations_batching_meeting :
    let k := meeting ⟨530⟩ ⟨529⟩ ⟨500⟩ firstDelegate
    let rows := [firstDelegate, secondDelegate, thirdDelegate].map fun d =>
      (⟨⟨529⟩, d, true, true, 5⟩ : DelegateSnapshot)
    let failingDelegators := [secondDelegate, thirdDelegate].map fun d =>
      (d, LedgerError.client 404 "no such delegate")
    let failing :=
      { k.world with
        ledger := { k.world.ledger with failingDelegators := ⟨failingDelegators⟩ }
        cache := { inventories := ⟨[(⟨529⟩, rows)]⟩ } }
    let least : Settings :=
      { k.settings with delegationConcurrency := 0, historyBatchSize := 0, writeBatchSize := 0 }
    let later := { failing with now := ⟨9, 0⟩ }
    let first := Run.syncDelegationsIn id k.settings failing
    let second := Run.syncDelegationsIn List.reverse least later
    let summary (r : DelegationsReport) := (r.eventsRecorded, r.failedEntities.map Prod.fst)
    first.1.toOption.map summary = some (2, [secondDelegate, thirdDelegate]) ∧
      second.1.toOption.map summary = some (2, [thirdDelegate, secondDelegate]) ∧
      Run.Matches DelegationsReport.Alike first.1 second.1 ∧
      first.2.store.Alike second.2.store := by
  intro k rows failingDelegators failing least later first second summary
  have hfixed : failing.Fixed failing.ledger.answer failing.store failing.cache :=
    SimulatedLedger.fixed rfl rfl rfl rfl
  have hlater : later.Fixed failing.ledger.answer failing.store failing.cache :=
    SimulatedLedger.fixed (w := later) rfl rfl rfl rfl
  have hid (found : List Found) : (id found).Perm found := List.Perm.refl found
  have hreverse (found : List Found) : (List.reverse found).Perm found := found.reverse_perm
  have hserve := failing.ledger.servesHistories
  have hpages : least.pageSize = k.settings.pageSize := rfl
  have hinfos : least.infoBatchSize = k.settings.infoBatchSize := rfl
  refine ⟨by decide +kernel, by decide +kernel, ?_⟩
  exact Run.syncDelegations_batching hserve hpages hinfos hid hreverse
    (refl_of Alike failing.store) hfixed hlater

end DelegationCycle

end GovernanceIndex
