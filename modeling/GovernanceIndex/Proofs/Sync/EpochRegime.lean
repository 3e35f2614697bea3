import GovernanceIndex.Proofs.Run.Regime
import GovernanceIndex.Sync.Epochs

/-!
Syncs of an epoch under a regime. A regime that grants a step its requests and its writes comes
through the work of the step, and one that grants every step through the sync.
-/
namespace GovernanceIndex

/-- The epoch that a request is about, if it is about one. -/
def Request.epoch? : Request → Option Epoch
  | .supplyTotals epoch | .delegationTotal epoch => some epoch
  | .page (.delegatePower epoch) _ | .page (.poolPower epoch) _ => some epoch
  | .page (.delegators _ epoch) _ => epoch
  | _ => none

/-- The endpoints that a step comes to for its own data. -/
def EpochStep.endpoints : EpochStep → List Endpoint
  | .dreps => [.drepList, .drepInfo, .drepVotingPower]
  | .totals => [.supplyTotals, .drepEpochSummary, .poolVotingPower]
  | .delegators => [.drepDelegators]

/-- The inventory of an epoch is remembered, or rows of it are stored. -/
def World.HasInventory {L : Type} (w : World L) (epoch : Epoch) : Prop :=
  (w.cache.inventories.get? epoch).isSome ∨ w.store.snapshotsOf epoch ≠ []

/-- A regime permits what comes to an endpoint and is about no epoch but one. -/
def Regime.PermitsAt {L : Type} [LedgerService L] (r : Regime L) (x : Endpoint) (epoch : Epoch) :
    Prop :=
  ∀ q : Request, q.endpoint = x → (∀ e ∈ q.epoch?, e = epoch) → r.permits q

/-- What a regime grants a step of an epoch: the requests for the data of the step, those for the
inventory where the last step has none at hand, and the writes. Lookups that may fail may leave the
step incomplete. -/
structure Regime.Grants {L : Type} [LedgerService L] (r : Regime L) (epoch : Epoch)
    (step : EpochStep) : Prop where
  own : ∀ x ∈ step.endpoints, r.PermitsAt x epoch
  inventory : step = .delegators → ∀ w, r.holds w → ¬ w.HasInventory epoch →
    ∀ x ∈ EpochStep.endpoints .dreps, r.PermitsAt x epoch
  write : ∀ k : StoreCall, (∀ s : Store, (s.perform k).isOk) →
    r.Runs (Run.call k : Run L k.Result) fun _ => True
  remember : ∀ w rows, r.holds w → r.holds { w with
    cache := { w.cache with inventories := w.cache.inventories.insert epoch rows } }
  incomplete : ∀ cause failed total, r.halts (.failed (.ledger cause)) →
    r.halts (.failed (.stepIncomplete epoch .delegators failed total))

namespace Regime

variable {L : Type} [LedgerService L] {r : Regime L} {epoch : Epoch} {step : EpochStep}

theorem epochInventory (c : Settings)
    (h : ∀ x ∈ EpochStep.endpoints .dreps, r.PermitsAt x epoch) :
    r.Runs (Run.fetchInventory c epoch) fun _ => True := by
  apply Regime.fetchInventory
  · exact fun p => h .drepList (by decide) (.page .delegates p) rfl nofun
  · exact fun ids => h .drepInfo (by decide) (.delegateInfo ids) rfl nofun
  · exact fun p => h .drepVotingPower (by decide) (.page (.delegatePower epoch) p) rfl fun e he =>
      (Option.some.inj he).symm

theorem stepWork (h : r.Grants epoch step) (c : Settings) :
    r.Runs (Run.stepWork c epoch step) fun _ => True := by
  have hself : ∀ e ∈ some epoch, e = epoch := fun e he => (Option.some.inj he).symm
  cases step with
  | dreps =>
    apply Runs.bind (epochInventory c h.own)
    intro rows _
    apply Runs.bind (h.write (.putSnapshots rows) fun _ => rfl)
    intro _ _
    exact Runs.bind (Runs.modify fun w hw => h.remember w rows hw) fun _ _ => Runs.pure trivial
  | totals =>
    refine Runs.bind (V := fun _ => True) ?_ fun _ _ => Runs.pure trivial
    have hsupply := h.own .supplyTotals (by decide) (.supplyTotals epoch) rfl hself
    apply Runs.bind (r.request hsupply c)
    intro supply _
    have hdelegated := h.own .drepEpochSummary (by decide) (.delegationTotal epoch) rfl hself
    apply Runs.bind (r.request hdelegated c)
    intro delegated _
    have hpools (p : Page) :=
      h.own .poolVotingPower (by decide) (.page (.poolPower epoch) p) rfl hself
    apply Runs.bind (r.listing hpools c)
    intro pools _
    exact h.write (.putTotals _) fun _ => rfl
  | delegators =>
    apply Runs.bind (V := fun _ => True)
    · apply Regime.inventory r c epoch h.remember
      intro w hw hcache hstored
      have hnone : ¬ w.HasInventory epoch := by
        rintro (hremembered | hrows)
        · rw [hcache] at hremembered
          cases hremembered
        · exact hrows hstored
      exact epochInventory c (h.inventory rfl w hw hnone)
    · intro rows _
      have hlookups (d : DelegateId) (p : Page) :=
        h.own .drepDelegators (by decide) (.page (.delegators d (some epoch)) p) rfl hself
      apply Runs.bind (r.lookup c _ _ _ hlookups)
      intro found hfound
      apply Runs.bind (h.write (.putSummaries _) fun _ => rfl)
      intro _ _
      dsimp only
      split
      · next hfailed =>
        obtain ⟨⟨d, cause⟩, hmem⟩ := List.exists_mem_of_length_pos (Nat.pos_of_ne_zero hfailed)
        obtain ⟨x, hx, hcause⟩ := List.mem_filterMap.mp hmem
        have hhalts := hfound x hx
        rcases hreply : x.reply with cause' | rows' <;> rw [hreply] at hcause hhalts
        · exact Runs.bind (V := fun _ => True) (Runs.throw (h.incomplete cause' _ _ hhalts))
            fun _ _ => Runs.pure trivial
        · cases hcause
      · exact Runs.pure trivial

theorem runSteps {c : Settings} {p : EpochCheckpoint} (steps : List EpochStep)
    (h : ∀ step, c.wants p step → r.Grants epoch step) :
    r.Runs (Run.runSteps c epoch p steps) fun _ => True := by
  have hstep (step : EpochStep) : r.Runs (Run.runStep c epoch p step) fun _ => True := by
    unfold Run.runStep
    split
    · next hwants =>
      apply Runs.bind (stepWork (h step hwants) c)
      intro rows _
      apply Runs.getBind
      intro w _
      exact Runs.bind ((h step hwants).write (.markStep epoch step w.now) fun _ => rfl) fun _ _ =>
        Runs.pure trivial
    · exact Runs.pure trivial
  induction steps with
  | nil => exact Runs.pure trivial
  | cons step rest ih =>
    exact Runs.bind (hstep step) fun _ _ => Runs.bind ih fun _ _ => Runs.pure trivial

theorem syncEpoch (h : ∀ step, r.Grants epoch step) (c : Settings) :
    r.Runs (Run.syncEpoch c epoch) fun _ => True := by
  apply Runs.bind (V := fun _ => True)
  · exact Runs.bind (r.readCall rfl) fun _ _ => Runs.pure trivial
  · intro p _
    exact Runs.bind (runSteps EpochStep.all fun step _ => h step) fun _ _ => Runs.pure trivial

theorem epochPlan (htip : r.permits .tip) (c : Settings) :
    r.Runs (Run.planEpochs c) fun _ => True := by
  apply Runs.bind (r.knownTip htip c)
  intro tip _
  split
  · exact Runs.pure trivial
  · split
    · exact Runs.pure trivial
    · exact Runs.bind (r.readCall rfl) fun _ _ => Runs.pure trivial

/-- A sync of epochs runs under a regime that grants every step of every epoch. -/
theorem syncEpochs (htip : r.permits .tip) (h : ∀ epoch step, r.Grants epoch step)
    (c : Settings) : r.Runs (Run.syncEpochs c) fun _ => True := by
  have heach (report : EpochsReport) (epochs : List Epoch) :
      r.Runs (Run.syncEach c report epochs) fun _ => True := by
    induction epochs generalizing report with
    | nil => exact Runs.pure trivial
    | cons epoch rest ih =>
      apply Runs.bind (syncEpoch (h epoch) c).attempt
      intro result _
      rcases result with cause | _ <;> exact ih _
  exact Runs.bind (epochPlan htip c) fun plan _ => heach plan.1 plan.2

end Regime

end GovernanceIndex
