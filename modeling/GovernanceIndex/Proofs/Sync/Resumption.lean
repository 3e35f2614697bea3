import GovernanceIndex.Proofs.Ledger.View
import GovernanceIndex.Proofs.Sync.DelegationCycle
import GovernanceIndex.Proofs.Sync.Outlook

/-!
Interrupted cycles. While the ledger service does not change, every cycle observes the same, and a
cycle that is cut short, wherever that is, leaves the outlook of every address as it was. So the
cycle that finally runs to its end comes to what it would have come to without the others.
-/
namespace GovernanceIndex

open LedgerService (Answers)

namespace LedgerView

/-- The inventory that a cycle works with: the stored one if there is one. -/
def inventoryOver (v : LedgerView) (c : Settings) (s : Store) (epoch : Epoch) :
    List DelegateSnapshot :=
  if (s.snapshotsOf epoch).isEmpty then v.inventory c epoch else s.snapshotsOf epoch

def observed (v : LedgerView) (c : Settings) (s : Store) (epoch : Epoch) :
    List (StakeAddress × Observation) :=
  let targets := Inventory.targets (v.inventoryOver c s epoch)
  Observation.latest (Observation.reports (v.found c.pageSize none targets))

/-- What is remembered is what would be read. -/
structure Recalled (v : LedgerView) (c : Settings) (s : Store) (cache : JobCache) : Prop where
  tip : ∀ tip ∈ cache.tip, tip = v.tip
  inventories : ∀ epoch, ∀ rows ∈ cache.inventories.get? epoch, rows = v.inventoryOver c s epoch

theorem recalled_empty (v : LedgerView) (c : Settings) (s : Store) : v.Recalled c s {} := by
  constructor
  · intro tip h
    cases h
  · intro epoch rows h
    cases h

end LedgerView

namespace Run

variable {L : Type} [LedgerService L] {v : LedgerView} {w₀ : World L}

theorem knownTip_view (c : Settings) (htip : ∀ tip ∈ w₀.cache.tip, tip = v.tip)
    (hanswers : Answers v.Answers w₀.ledger) :
    Triple (fun w => w = w₀) (knownTip c) (fun tip w => tip = v.tip ∧ w₀.Passes w) w₀.Passes := by
  have hpasses (w w' : World L) (h : w.Passes w') (hw : w₀.Passes w) : w₀.Passes w' :=
    trans_of World.Passes hw h
  apply Triple.getBind
  intro w
  apply Triple.naming
  rintro w ⟨rfl, rfl⟩
  have hself (w' : World L) (hw : w' = w) : w.Passes w' := hw ▸ refl_of World.Passes w
  rcases hcache : w.cache.tip with _ | tip
  · have hrequest := request_answers hpasses (fun w' hw => hanswers.reacts hw.ledger) c .tip
    apply Triple.bind (Q := fun tip w' => tip = v.tip ∧ w.Passes w')
    · apply Triple.bind (hrequest.pre hself)
      exact fun tip => Triple.pure fun w' hw => ⟨hw.2, hw.1⟩
    intro tip
    apply Triple.assuming
    rintro rfl
    apply Triple.bind (Q := fun _ => w.Passes)
    · intro w' hw
      exact ⟨⟨hw.data, hw.calls, hw.ledger⟩, hw.inventories⟩
    · exact fun _ => Triple.pure fun w' hw => ⟨rfl, hw⟩
  · exact Triple.pure fun w' hw => ⟨htip tip hcache, hself w' hw⟩

theorem latestCompleted_view (c : Settings) (htip : ∀ tip ∈ w₀.cache.tip, tip = v.tip)
    (hanswers : Answers v.Answers w₀.ledger) :
    Triple (fun w => w = w₀) (latestCompleted c)
      (fun epoch w => v.tip.prev? = some epoch ∧ w₀.Passes w) w₀.Passes := by
  apply Triple.bind (knownTip_view c htip hanswers)
  intro tip
  apply Triple.assuming
  rintro rfl
  rcases v.tip.prev? with _ | epoch
  · exact Triple.throw fun _ => id
  · exact Triple.pure fun w hw => ⟨rfl, hw⟩

theorem snapshots_passes (w₀ : World L) (epoch : Epoch) :
    Triple w₀.Passes (call (.snapshots epoch) : Run L (List DelegateSnapshot))
      (fun rows w => rows = w₀.store.snapshotsOf epoch ∧ w₀.Passes w) w₀.Passes := by
  have hread : Ensures (fun s => s.snapshotsOf epoch = w₀.store.snapshotsOf epoch)
      (call (.snapshots epoch) : Run L (List DelegateSnapshot))
      (fun rows _ => rows = w₀.store.snapshotsOf epoch) (fun _ => True) :=
    Ensures.callTo (fun _ => rfl) (fun _ => id) fun _ _ => trivial
  have hsame (w : World L) (hw : w₀.Passes w) :
      w.store.snapshotsOf epoch = w₀.store.snapshotsOf epoch :=
    hw.data.eq fun s => s.snapshotsOf epoch
  have hpasses : Triple w₀.Passes (call (.snapshots epoch) : Run L (List DelegateSnapshot))
      (fun _ => w₀.Passes) w₀.Passes :=
    (Passes.call rfl).triple fun w w' h hw => trans_of World.Passes hw h
  exact ((Triple.pre hread hsame).and hpasses).mono (fun _ => id) (fun _ _ => id) fun _ hw => hw.2

theorem inventory_view (c : Settings) (epoch : Epoch)
    (hrecalled : ∀ rows ∈ w₀.cache.inventories.get? epoch, rows = v.inventoryOver c w₀.store epoch)
    (hanswers : Answers v.Answers w₀.ledger) :
    Triple w₀.Passes (inventory c epoch)
      (fun rows w => rows = v.inventoryOver c w₀.store epoch ∧ w₀.Reads w) w₀.Reads := by
  have hpasses (w w' : World L) (h : w.Passes w') (hw : w₀.Passes w) : w₀.Passes w' :=
    trans_of World.Passes hw h
  have hremember (rows : List DelegateSnapshot) :
      Triple w₀.Passes (rememberInventory epoch rows : Run L Unit) (fun _ => w₀.Reads) w₀.Reads :=
    ((Reads.rememberInventory epoch rows).triple fun w w' h hw => trans_of World.Reads hw h).pre
      fun w hw => hw.toReads
  have hkeep (rows : List DelegateSnapshot) :
      Triple w₀.Passes (do rememberInventory epoch rows; return rows : Run L _)
        (fun rows' w => rows' = rows ∧ w₀.Reads w) w₀.Reads :=
    Triple.bind (hremember rows) fun _ => Triple.pure fun w hw => ⟨rfl, hw⟩
  apply Triple.getBind
  intro w
  apply Triple.naming
  rintro w ⟨rfl, hw⟩
  rw [hw.inventories]
  have hself (w' : World L) (hw' : w' = w) : w₀.Passes w' := hw' ▸ hw
  rcases hcache : w₀.cache.inventories.get? epoch with _ | rows
  case some => exact Triple.pure fun w' hw' => ⟨hrecalled rows hcache, (hself w' hw').toReads⟩
  unfold LedgerView.inventoryOver
  apply Triple.bind ((snapshots_passes w₀ epoch).mono hself (fun _ _ => id) fun _ hw => hw.toReads)
  intro stored
  apply Triple.assuming
  rintro rfl
  dsimp only
  split
  · have hfetch := fetchInventory_view hpasses (fun w' hw => hanswers.reacts hw.ledger) c epoch
    apply Triple.bind (hfetch.mono (fun _ => id) (fun _ _ => id) fun _ hw => hw.toReads)
    intro rows
    apply Triple.assuming
    rintro rfl
    exact hkeep _
  · exact Triple.bind (Q := fun rows w => rows = w₀.store.snapshotsOf epoch ∧ w₀.Passes w)
      (Triple.pure fun w hw => ⟨rfl, hw⟩) fun rows => Triple.assuming fun hrows => hrows ▸ hkeep _

/-- What is observed is what the view has, unless a lookup fails. -/
theorem observe_view (c : Settings) (w₀ : World L) (hrecalled : v.Recalled c w₀.store w₀.cache)
    (hanswers : Answers v.Answers w₀.ledger) :
    Triple (fun w => w = w₀) (observe c)
      (fun o w => (v.tip.prev? = some o.1 ∧ (Found.failures o.2 = [] →
        Observation.latest (Observation.reports o.2) = v.observed c w₀.store o.1)) ∧
        w₀.Reads w) w₀.Reads := by
  have hlatest := latestCompleted_view c hrecalled.tip hanswers
  apply Triple.bind (hlatest.mono (fun _ => id) (fun _ _ => id) fun _ hw => hw.toReads)
  intro epoch
  apply Triple.assuming
  intro hepoch
  apply Triple.bind (inventory_view c epoch (hrecalled.inventories epoch) hanswers)
  intro rows
  apply Triple.assuming
  intro hrows
  have hpasses (w w' : World L) (h : w.Passes w') (hw : w₀.Reads w) : w₀.Reads w' :=
    trans_of World.Reads hw h.toReads
  apply Triple.bind (lookup_view (v := v) hpasses (fun w' hw => hanswers.reacts hw.ledger) c
    c.delegationConcurrency none (Inventory.targets rows))
  intro found
  refine Triple.pure fun w hw => ⟨⟨hepoch, fun hnone => ?_⟩, hw.2⟩
  obtain ⟨⟨ended, hended, hperm⟩, -⟩ := hw
  rw [LedgerView.reports_eq hended hperm hnone, hrows]
  rfl

end Run

open Difference (Settled)
open Run (Triple)
open Store (Outlook)
open World (Serving)

namespace LedgerView

variable {v : LedgerView} {c c' : Settings} {s s' : Store}

theorem inventoryOver_congr (hinventory : ∀ epoch, v.inventory c' epoch = v.inventory c epoch)
    (hsnapshots : s'.snapshots = s.snapshots) (epoch : Epoch) :
    v.inventoryOver c' s' epoch = v.inventoryOver c s epoch := by
  have hstored : s'.snapshotsOf epoch = s.snapshotsOf epoch := by
    unfold Store.snapshotsOf
    rw [hsnapshots]
  unfold inventoryOver
  rw [hstored, hinventory]

theorem observed_congr (hinventory : ∀ epoch, v.inventory c' epoch = v.inventory c epoch)
    (hdelegators : ∀ d, v.rows c'.pageSize (.delegators d none) =
      v.rows c.pageSize (.delegators d none))
    (hsnapshots : s'.snapshots = s.snapshots) (epoch : Epoch) :
    v.observed c' s' epoch = v.observed c s epoch := by
  unfold observed found
  rw [inventoryOver_congr hinventory hsnapshots]
  simp only [hdelegators]

end LedgerView

namespace DelegationCycle

variable {L : Type} [LedgerService L]

/-- A cycle from a store, before a service that does not change: its settings read the inventories
and the delegators that the agreed ones read, what it remembers is what it would read, and no lookup
of it fails. -/
structure Steady (v : LedgerView) (c : Settings) (k : DelegationCycle L) (s : Store) : Prop where
  inventory : ∀ epoch, v.inventory k.settings epoch = v.inventory c epoch
  delegators : ∀ d, v.rows k.settings.pageSize (.delegators d none) =
    v.rows c.pageSize (.delegators d none)
  recalled : v.Recalled c s k.world.cache
  answers : Answers v.Answers k.world.ledger
  found : ∀ o ∈ (Run.observe k.settings (k.world.withStore s)).1.toOption,
    Found.failures o.2 = []

def runs (ks : List (DelegationCycle L)) (s : Store) : Store := ks.foldl (fun s k => k.run s) s

/-- Cycles of which each is steady from the store that those before it left. -/
def SteadyRuns (v : LedgerView) (c : Settings) : List (DelegationCycle L) → Store → Prop
  | [], _ => True
  | k :: ks, s => k.Steady v c s ∧ SteadyRuns v c ks (k.run s)

/-- A cycle runs to its end: it does not halt and skips no address. -/
def Completes (k : DelegationCycle L) (s : Store) : Prop :=
  (Run.syncDelegations k.settings (k.world.withStore s)).1.toOption.map
    (fun report => report.backfillSkipped) = some 0

instance (k : DelegationCycle L) (s : Store) : Decidable (k.Completes s) :=
  inferInstanceAs (Decidable (_ = _))

variable {v : LedgerView} {c : Settings} {k : DelegationCycle L} {ks : List (DelegationCycle L)}
  {s₀ s : Store} {epoch : Epoch}

theorem Steady.observe (h : k.Steady v c s) (hsnapshots : s.snapshots = s₀.snapshots) :
    Triple (fun w => w = k.world.withStore s) (Run.observe k.settings)
      (fun o w => (v.tip.prev? = some o.1 ∧
        Observation.latest (Observation.reports o.2) = v.observed c s₀ o.1) ∧
        (k.world.withStore s).Reads w) (k.world.withStore s).Reads := by
  have hrecalled : v.Recalled k.settings s k.world.cache := by
    refine ⟨h.recalled.tip, fun epoch rows hrows => ?_⟩
    rw [LedgerView.inventoryOver_congr h.inventory rfl]
    exact h.recalled.inventories epoch rows hrows
  have hfound : Triple (fun w => w = k.world.withStore s) (Run.observe k.settings)
      (fun o _ => Found.failures o.2 = []) (fun _ => True) := by
    rintro w rfl
    have hnone := h.found
    rcases hr : Run.observe k.settings (k.world.withStore s) with ⟨halt | o, w⟩
    · trivial
    · rw [hr] at hnone
      exact hnone o rfl
  have hview := Run.observe_view (v := v) k.settings (k.world.withStore s) hrecalled h.answers
  apply (hview.and hfound).mono fun _ => id
  · rintro o w ⟨⟨⟨hepoch, hobserved⟩, hreads⟩, hnone⟩
    refine ⟨⟨hepoch, ?_⟩, hreads⟩
    rw [hobserved hnone]
    exact LedgerView.observed_congr h.inventory h.delegators hsnapshots o.1
  · exact fun w hw => hw.1

/-- A steady cycle keeps the outlook of every address, whatever it comes to, and if it runs to its
end every observed address is settled. -/
theorem Steady.syncDelegations (h : k.Steady v c s) (hepoch : v.tip.prev? = some epoch)
    (hs : Outlook epoch (v.observed c s₀ epoch) v.history s₀ s) :
    Triple (fun w => w = k.world.withStore s) (Run.syncDelegations k.settings)
      (fun report w => Outlook epoch (v.observed c s₀ epoch) v.history s₀ w.store ∧
        (report.backfillSkipped = 0 → ∀ x ∈ v.observed c s₀ epoch,
          Settled epoch x.2 (w.store.states.get? x.1)))
      (fun w => Outlook epoch (v.observed c s₀ epoch) v.history s₀ w.store) := by
  rw [Run.syncDelegations_eq]
  have hreads (w : World L) (hw : (k.world.withStore s).Reads w) :
      Serving v.Answers (Outlook epoch (v.observed c s₀ epoch) v.history s₀) w :=
    ⟨h.answers.reacts hw.ledger, hs.sameLog hw.data.sameLog⟩
  apply Triple.bind ((h.observe hs.snapshots).mono (fun _ => id) (fun _ _ => id) fun w hw =>
    (hreads w hw).2)
  rintro ⟨epoch', found⟩
  apply Triple.assuming
  rintro ⟨hepoch', hobserved⟩
  obtain rfl : epoch' = epoch := Option.some.inj (hepoch'.symm.trans hepoch)
  have hnodup : ((v.observed c s₀ epoch').map Prod.fst).Nodup := Observation.latest_nodup _
  have hserve : HistoriesServe v.Answers fun a us => us = v.history a := fun _ _ hanswer => hanswer
  have hcycle := Run.reconcile_triple (L := L) k.settings found
    (hobserved ▸ Outlook.cycleInvariant epoch' hnodup v.history s₀) hserve
  rw [hobserved] at hcycle
  apply hcycle.mono hreads
  · rintro report w ⟨houtlook, skipped, hskipped, hsettled⟩
    refine ⟨houtlook, fun hzero x hx => hsettled x hx ?_⟩
    rw [List.length_eq_zero_iff.mp (hskipped.symm.trans hzero)]
    exact List.not_mem_nil
  · exact fun _ => id

theorem Steady.run_outlook (h : k.Steady v c s) (hepoch : v.tip.prev? = some epoch)
    (hs : Outlook epoch (v.observed c s₀ epoch) v.history s₀ s) :
    Outlook epoch (v.observed c s₀ epoch) v.history s₀ (k.run s) := by
  exact ((h.syncDelegations hepoch hs).post fun _ _ hw => hw.1).final rfl

/-- A cycle that runs to its end found that an epoch is over. -/
theorem Steady.exists_epoch (h : k.Steady v c s) (hends : k.Completes s) :
    ∃ epoch, v.tip.prev? = some epoch := by
  obtain ⟨report, hreport, -⟩ := Option.map_eq_some_iff.mp hends
  rw [Run.syncDelegations_eq] at hreport
  rcases hr : (Run.observe k.settings >>= fun o => Run.reconcile k.settings o.1 o.2)
    (k.world.withStore s) with ⟨halt | r, w⟩ <;> rw [hr] at hreport
  · cases hreport
  · obtain ⟨o, w₁, ho, -⟩ := Run.exists_of_bind_ok hr
    exact ⟨o.1, ((h.observe rfl).ok rfl ho).1.1⟩

theorem Steady.run_settled (h : k.Steady v c s) (hepoch : v.tip.prev? = some epoch)
    (hs : Outlook epoch (v.observed c s₀ epoch) v.history s₀ s) (hends : k.Completes s) :
    ∀ x ∈ v.observed c s₀ epoch, Settled epoch x.2 ((k.run s).states.get? x.1) := by
  have hcycle := h.syncDelegations hepoch hs (k.world.withStore s) rfl
  obtain ⟨report, hreport, hzero⟩ := Option.map_eq_some_iff.mp hends
  unfold run Run.storeAfter
  rcases hr : Run.syncDelegations k.settings (k.world.withStore s) with ⟨halt | r, w⟩ <;>
    rw [hr] at hcycle hreport
  · cases hreport
  · cases hreport
    exact hcycle.2 hzero

/-- Steady cycles keep the outlook of every address, wherever they were cut short. -/
theorem runs_outlook (h : SteadyRuns v c ks s) (hepoch : v.tip.prev? = some epoch)
    (hs : Outlook epoch (v.observed c s₀ epoch) v.history s₀ s) :
    Outlook epoch (v.observed c s₀ epoch) v.history s₀ (runs ks s) := by
  induction ks generalizing s with
  | nil => exact hs
  | cons k ks ih =>
    obtain ⟨hk, hks⟩ := h
    exact ih hks (hk.run_outlook hepoch hs)

/-- While the service does not change, a cycle that runs to its end after others, each of which may
have been cut short anywhere, leaves every address with the state and, but for the times of
recording, the changes that it would have left it with alone. -/
theorem interrupted_eq_uninterrupted (v : LedgerView) (c : Settings) (s : Store)
    (cuts : List (DelegationCycle L)) (last alone : DelegationCycle L)
    (hcuts : SteadyRuns v c cuts s) (hlast : last.Steady v c (runs cuts s))
    (hlastEnds : last.Completes (runs cuts s)) (halone : alone.Steady v c s)
    (haloneEnds : alone.Completes s) (a : StakeAddress) :
    let interrupted := last.run (runs cuts s)
    let uninterrupted := alone.run s
    interrupted.states.get? a = uninterrupted.states.get? a ∧
    (interrupted.changesOf a).map DelegationChange.untimed =
      (uninterrupted.changesOf a).map DelegationChange.untimed := by
  -- Cut short or not, a cycle keeps the outlook from the start, and both ends settle it.
  obtain ⟨epoch, hepoch⟩ := halone.exists_epoch haloneEnds
  have hself : Outlook epoch (v.observed c s epoch) v.history s s :=
    ⟨rfl, fun _ _ => rfl, fun _ _ => rfl⟩
  have hcut := runs_outlook hcuts hepoch hself
  have hrecord := (hlast.run_outlook hepoch hcut).recordOf_eq (halone.run_outlook hepoch hself)
    (hlast.run_settled hepoch hcut hlastEnds) (halone.run_settled hepoch hself haloneEnds) a
  exact ⟨congrArg AddressRecord.state hrecord, congrArg AddressRecord.changes hrecord⟩

/-- A service with one delegation, whose history has another delegate than is observed. -/
def delegatedLedger : SimulatedLedger where
  tip := some ⟨530⟩
  delegates := ⟨[(⟨"drep1c", by decide⟩, ⟨⟨"drep1c", by decide⟩, true, true⟩)]⟩
  delegatePower := ⟨[((⟨529⟩, ⟨"drep1c", by decide⟩), 5)]⟩
  delegators := ⟨[(⟨"drep1c", by decide⟩, [⟨⟨"stake1u2", by decide⟩, 10⟩])]⟩
  histories := ⟨[(⟨"stake1u2", by decide⟩, [⟨⟨"drep1d", by decide⟩, ⟨500⟩, 0, 0, 0⟩])]⟩

/-- A cycle before that service, in which requests and calls to the store may fail. -/
def troubled (quota : Option Nat) (queuedFailures : Table Endpoint (List LedgerError))
    (faults : Table StoreMethod (List (Option StoreError))) (now : Timestamp) :
    DelegationCycle SimulatedLedger where
  settings := {}
  world :=
    { ledger := { delegatedLedger with quota, queuedFailures }
      worker := { id := ⟨"w2", by decide⟩ }
      now
      faults }

theorem troubled_steady {quota : Option Nat} {queuedFailures : Table Endpoint (List LedgerError)}
    {faults : Table StoreMethod (List (Option StoreError))} {now : Timestamp}
    (hfound : ∀ o ∈ (Run.observe {} ((troubled quota queuedFailures faults now).world.withStore
      s)).1.toOption, Found.failures o.2 = []) :
    (troubled quota queuedFailures faults now).Steady delegatedLedger.view {} s where
  inventory _ := rfl
  delegators _ := rfl
  recalled := LedgerView.recalled_empty _ _ _
  answers := SimulatedLedger.answers_view _
  found := hfound

/-- Cycles that are cut short by the quota, by a request for a history and by the store between the
backfill and the difference, and one that is not. -/
theorem interrupted_eq_uninterrupted_thrice :
    let low := troubled (some 5) {} {} ⟨1, 0⟩
    let refused := troubled none ⟨[(.accountDelegationHistory, [.client 404 ""])]⟩ {} ⟨2, 0⟩
    let broken := troubled none {} ⟨[(.applyChanges, [some (.storage "")])]⟩ ⟨3, 0⟩
    let last := troubled none {} {} ⟨4, 0⟩
    let s := runs [low, refused, broken] {}
    let a : StakeAddress := ⟨"stake1u2", by decide⟩
    ¬ low.Completes {} ∧ ¬ refused.Completes (runs [low] {}) ∧
      ¬ broken.Completes (runs [low, refused] {}) ∧ (s.changesOf a).length = 1 ∧
      ((last.run s).changesOf a).length = 2 ∧ (last.run s).changesOf a ≠ (last.run {}).changesOf a ∧
      (last.run s).states.get? a = (last.run {}).states.get? a ∧
      ((last.run s).changesOf a).map DelegationChange.untimed =
        ((last.run {}).changesOf a).map DelegationChange.untimed := by
  intro low refused broken last s a
  have hcuts : SteadyRuns delegatedLedger.view {} [low, refused, broken] {} :=
    ⟨troubled_steady (by decide +kernel), troubled_steady (by decide +kernel),
      troubled_steady (by decide +kernel), trivial⟩
  have hlast : last.Steady delegatedLedger.view {} s := troubled_steady (by decide +kernel)
  have halone : last.Steady delegatedLedger.view {} {} := troubled_steady (by decide +kernel)
  have hends : last.Completes s := by decide +kernel
  have hendsAlone : last.Completes {} := by decide +kernel
  obtain ⟨hstate, hchanges⟩ :=
    interrupted_eq_uninterrupted _ {} {} _ last last hcuts hlast hends halone hendsAlone a
  exact ⟨by decide +kernel, by decide +kernel, by decide +kernel, by decide +kernel,
    by decide +kernel, by decide +kernel, hstate, hchanges⟩

end DelegationCycle

end GovernanceIndex
