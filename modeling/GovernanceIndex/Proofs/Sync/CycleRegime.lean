import GovernanceIndex.Proofs.Run.Regime
import GovernanceIndex.Proofs.Sync.CycleRule
import GovernanceIndex.Proofs.Sync.Frames

/-!
Cycles of the delegation sync under a regime. A regime that grants the first part of a cycle its
requests comes through it, and so does one that grants the second part its requests and writes.
-/
namespace GovernanceIndex

/-- What a regime grants the first part of a cycle: the requests for the tip, for an inventory and
for the current delegators. It may be too early for any epoch to be over. -/
structure Regime.GrantsObserving {L : Type} [LedgerService L] (r : Regime L) : Prop where
  tip : r.permits .tip
  delegates : ∀ p, r.permits (.page .delegates p)
  infos : ∀ ids, r.permits (.delegateInfo ids)
  powers : ∀ epoch p, r.permits (.page (.delegatePower epoch) p)
  delegators : ∀ d p, r.permits (.page (.delegators d none) p)
  remember : ∀ w epoch rows, r.holds w → r.holds { w with
    cache := { w.cache with inventories := w.cache.inventories.insert epoch rows } }
  early : ∀ tip, r.halts (.failed (.noCompletedEpoch tip))

/-- What a regime grants the second part of a cycle: the requests for histories and every write of a
cycle. A backfill may have too many addresses to count. -/
structure Regime.GrantsReconciling {L : Type} [LedgerService L] (r : Regime L) : Prop where
  histories : ∀ addresses, r.permits (.histories addresses)
  write : ∀ k : StoreCall, k.isDelegationWrite →
    r.Runs (Run.call k : Run L k.Result) fun _ => True
  overflow : r.halts (.crashed (some "attempt to add with overflow"))

namespace Regime

variable {L : Type} [LedgerService L] {r : Regime L}

theorem latestCompleted (h : r.GrantsObserving) (c : Settings) :
    r.Runs (Run.latestCompleted c) fun _ => True := by
  apply Runs.bind (r.knownTip h.tip c)
  intro tip _
  split
  · exact Runs.pure trivial
  · exact Runs.throw (h.early tip)

theorem observe (h : r.GrantsObserving) (c : Settings) :
    r.Runs (Run.observe c) fun _ => True := by
  apply Runs.bind (latestCompleted h c)
  intro epoch _
  apply Runs.bind
  · apply r.inventory c epoch fun w rows hw => h.remember w epoch rows hw
    exact fun _ _ _ _ => r.fetchInventory c epoch h.delegates h.infos (h.powers epoch)
  · intro rows _
    exact Runs.bind (r.lookup c _ none _ h.delegators) fun _ _ => Runs.pure trivial

theorem backfillBatch (hwrite : ∀ changes state cursor,
    r.Runs (Run.call (.applyBackfill changes state cursor)) fun _ => True) (job : String)
    (total : UInt64) (histories : Table StakeAddress (List DelegationUpdate)) (before : UInt64)
    (b : Backfill) (addresses : List StakeAddress) :
    r.Runs (Run.backfillBatch job total histories before b addresses) fun _ => True := by
  induction addresses generalizing before b with
  | nil => exact Runs.pure trivial
  | cons address rest ih =>
    exact Runs.getBind fun w _ => Runs.bind (hwrite _ _ _) fun _ _ => ih _ _

theorem backfillBatches (hhistories : ∀ addresses, r.permits (.histories addresses))
    (hwrite : ∀ changes state cursor,
      r.Runs (Run.call (.applyBackfill changes state cursor)) fun _ => True) (c : Settings)
    (job : String) (total before : UInt64) (b : Backfill) (batches : List (List StakeAddress)) :
    r.Runs (Run.backfillBatches c job total before b batches) fun _ => True := by
  have hquota : r.Runs (Run.quotaIsLow c) fun _ => True :=
    Runs.getBind fun _ _ => Runs.pure trivial
  induction batches generalizing before b with
  | nil => exact Runs.pure trivial
  | cons batch rest ih =>
    apply Runs.bind hquota
    intro low _
    split
    · exact Runs.pure trivial
    · apply Runs.bind (r.request (hhistories batch) c)
      intro histories _
      exact Runs.bind (backfillBatch hwrite job total _ before b batch) fun _ _ => ih _ _

theorem fullBackfill (r : Regime L) : r.Runs Run.fullBackfill fun _ => True := by
  apply Runs.bind (r.readCall rfl)
  intro isDone _
  apply Runs.bind (r.readCall rfl)
  intro cursor _
  split
  · exact Runs.pure trivial
  · split
    · exact Runs.pure trivial
    · exact Runs.bind (r.readCall rfl) fun _ _ => Runs.pure trivial

theorem backfilledStates (r : Regime L) (b : Backfill) :
    r.Runs (Run.backfilledStates b) fun _ => True := by
  unfold Run.backfilledStates
  split
  · exact Runs.pure trivial
  · exact r.readCall rfl

section

variable (h : r.GrantsReconciling)
include h

theorem backfill (c : Settings) (job : String) (addresses : List StakeAddress)
    (cursor : Option BackfillCursor) :
    r.Runs (Run.backfill c job addresses cursor) fun _ => True := by
  unfold Run.backfill
  dsimp only
  split
  · exact Runs.throw h.overflow
  · apply Runs.bind (backfillBatches h.histories (fun _ _ _ => h.write _ rfl) c job _ _ _ _)
    intro b _
    split
    · apply Runs.bind (h.write (.clearCursor job) rfl)
      intro _ _
      split
      · exact Runs.getBind fun w _ => Runs.bind (h.write _ rfl) fun _ _ => Runs.pure trivial
      · exact Runs.pure trivial
    · exact Runs.pure trivial

theorem backfillNew (c : Settings) (addresses : List StakeAddress) :
    r.Runs (Run.backfillNew c addresses) fun _ => True := by
  apply Runs.bind r.fullBackfill
  rintro ⟨full, cursor⟩ _
  dsimp only
  split
  · exact Runs.bind (backfill h c _ _ _) fun _ _ => Runs.pure trivial
  · split
    · exact Runs.pure trivial
    · exact Runs.bind (r.readCall rfl) fun _ _ =>
        Runs.bind (backfill h c _ _ _) fun _ _ => Runs.pure trivial

theorem writeDifferences (c : Settings) (ds : List Difference) :
    r.Runs (Run.writeDifferences c ds) fun _ => True := by
  unfold Run.writeDifferences
  induction batches c.writeBatchSize ds with
  | nil => exact Runs.pure trivial
  | cons batch rest ih => exact Runs.bind (h.write _ rfl) fun _ _ => ih

theorem reconcile (c : Settings) (epoch : Epoch) (found : List Found) :
    r.Runs (Run.reconcile c epoch found) fun _ => True := by
  unfold Run.reconcile
  dsimp only
  apply Runs.bind (r.readCall rfl)
  intro stored _
  apply Runs.bind (backfillNew h c _)
  rintro ⟨full, b⟩ _
  apply Runs.bind (r.backfilledStates b)
  intro backfilled _
  apply Runs.getBind
  intro w _
  exact Runs.bind (writeDifferences h c _) fun _ _ => Runs.pure trivial

end

theorem syncDelegations (hobserve : r.GrantsObserving) (hreconcile : r.GrantsReconciling)
    (c : Settings) : r.Runs (Run.syncDelegations c) fun _ => True := by
  rw [Run.syncDelegations_eq]
  exact Runs.bind (observe hobserve c) fun o _ => reconcile hreconcile c o.1 o.2

end Regime

end GovernanceIndex
