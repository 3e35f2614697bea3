import GovernanceIndex.Proofs.Run.Reads
import GovernanceIndex.Sync.Delegations
import GovernanceIndex.Sync.Epochs

/-!
What a sync keeps. Everything that a sync does is put together from requests, calls of the store,
the passing of time and changes of what is remembered. A relation of worlds that each of these
moves along frames the whole sync.
-/
namespace GovernanceIndex

def StoreCall.isEpochWrite : StoreCall → Bool
  | .markStep .. | .putSnapshots _ | .putTotals _ | .putSummaries _ => true
  | _ => false

def StoreCall.isDelegationWrite : StoreCall → Bool
  | .applyChanges .. | .applyBackfill .. | .clearCursor _ | .markBackfillDone .. => true
  | _ => false

theorem Run.shiftEach {L : Type} [LedgerService L] {R : World L → World L → Prop}
    [IsPreorder (World L) R] (c : Settings) (report : EpochsReport) (epochs : List Epoch)
    (h : ∀ e ∈ epochs, Shifts R (syncEpoch c e : Run L EpochReport)) :
    Shifts R (syncEach c report epochs : Run L EpochsReport) := by
  induction epochs generalizing report with
  | nil => exact Shifts.pure report
  | cons e rest ih =>
    obtain ⟨hfirst, hrest⟩ := List.forall_mem_cons.mp h
    apply Shifts.bind hfirst.attempt
    intro r
    rcases r with cause | _ <;> exact ih _ hrest

/-- Worlds are related along all that a sync with some writes may do. -/
structure World.Frame {L : Type} [LedgerService L] (writes : StoreCall → Bool)
    (R : World L → World L → Prop) : Prop where
  ask : ∀ w q, R w (w.ask q).2
  read : ∀ w k, k.isWrite = false → R w (w.call k).2
  write : ∀ w k, writes k → R w (w.call k).2
  advance : ∀ w time, R w (w.advance time)
  remember : ∀ w cache, R w { w with cache }

namespace World

open Store (SameData)

variable {L : Type} {S : Store → Store → Prop} {R : World L → World L → Prop}

/-- Worlds are related along all calls of the store that move it along a relation, and along all
that changes neither the store nor what is to fail. -/
structure CallFrame (S : Store → Store → Prop) (R : World L → World L → Prop) : Prop where
  call : ∀ (w : World L) k, (∀ r s, w.store.perform k = .ok (r, s) → S w.store s) →
    R w (w.call k).2
  still : ∀ w w' : World L, w'.store = w.store → w'.faults = w.faults → R w w'

namespace CallFrame

/-- Stores as such are related along the calls that move them. -/
theorem onStore [IsPreorder Store S] : CallFrame S (Run.OnStore S : World L → World L → Prop) where
  call w _ hk := call_relates (w := w) hk
  still w _ hstore _ := by
    unfold Run.OnStore
    rw [hstore]
    exact refl_of S w.store

variable [IsPreorder (World L) R] (h : CallFrame S R) (hdata : ∀ s s', SameData s s' → S s s')
include h hdata

theorem advance (w : World L) (time : Nat) : R w (w.advance time) := by
  have hbeats : R w ((w.beats time).foldl World.beat w) :=
    List.foldlRecOn _ _ (refl_of R w) fun v hv b _ => trans_of R hv <|
      h.call v (.renewLease b.job v.worker.id v.now b.lease) fun _ s hp =>
        hdata _ s (Store.renewLease_sameData hp)
  exact trans_of R hbeats (h.still _ (w.advance time) rfl rfl)

theorem frame [LedgerService L] {writes : StoreCall → Bool}
    (hwrites : ∀ k, writes k → ∀ (s : Store) r s', s.perform k = .ok (r, s') → S s s') :
    World.Frame writes R where
  ask w q := h.still w _ rfl rfl
  read w k hk := h.call w k fun _ s hp => by
    obtain rfl := Store.perform_read hk hp
    exact hdata _ _ (refl_of SameData w.store)
  write w k hk := h.call w k fun r s => hwrites k hk w.store r s
  advance := h.advance hdata
  remember w _ := h.still w _ rfl rfl

end CallFrame

end World

namespace World.Frame

open Run

variable {L σ ρ : Type} [LedgerService L] {R : World L → World L → Prop}

section

variable {writes : StoreCall → Bool} (h : World.Frame writes R)
include h

theorem readCall {k : StoreCall} (hk : k.isWrite = false) :
    Shifts R (Run.call k : Run L k.Result) := by
  intro w
  rw [call_world]
  exact h.read w k hk

theorem writeCall {k : StoreCall} (hk : writes k) : Shifts R (Run.call k : Run L k.Result) := by
  intro w
  rw [call_world]
  exact h.write w k hk

theorem askOne (q : Request) : Shifts R (Run.ask q : Run L q.Reply) := fun w => h.ask w q

theorem rememberInventory (epoch : Epoch) (rows : List DelegateSnapshot) :
    Shifts R (Run.rememberInventory epoch rows : Run L Unit) := fun w => h.remember w _

theorem waitUntil (time : Nat) : Shifts R (Run.waitUntil time : Run L Unit) := by
  intro w
  unfold Run.waitUntil
  rw [get_bind_apply]
  rcases w.deadline with _ | deadline
  · exact h.advance w time
  · dsimp only
    split
    · exact h.advance w time
    · exact h.advance w deadline

variable [IsPreorder (World L) R]

theorem retryFrom (p : RetryPolicy) (q : Request) (left attempt : Nat) :
    Shifts R (Run.retryFrom p q left attempt : Run L q.Reply) := by
  induction left generalizing attempt with
  | zero => exact h.askOne q
  | succ left ih =>
    apply Shifts.bind (h.askOne q)
    intro reply
    split
    · exact Shifts.bind (Shifts.getBind fun w => h.waitUntil _) fun _ => ih _
    · exact Shifts.pure _

theorem request (c : Settings) (q : Request) : Shifts R (Run.request c q : Run L q.Answer) := by
  apply Shifts.bind (h.retryFrom _ q _ _)
  intro reply
  rcases reply with cause | a
  · exact Shifts.throw _
  · exact Shifts.pure a

theorem pageTurn {l : Listing} (r : PageRead l) : Shifts R (r.turn : Run L _) :=
  Shifts.bind (h.askOne _) fun _ => Shifts.pure _

theorem pages {l : Listing} (turns : Nat) (r : PageRead l) :
    Shifts R (PageRead.go turns r : Run L _) := by
  induction turns generalizing r with
  | zero => exact Shifts.pure _
  | succ turns ih =>
    apply Shifts.bind (h.pageTurn r)
    intro turn
    rcases turn with result | ⟨r', delay⟩
    · exact Shifts.pure _
    · exact Shifts.getBind fun w => Shifts.bind (h.waitUntil _) fun _ => ih r'

theorem listing (c : Settings) (l : Listing) : Shifts R (Run.listing c l : Run L (List l.Row)) := by
  apply Shifts.bind (h.pages _ _)
  intro reply
  rcases reply with cause | rows
  · exact Shifts.throw _
  · exact Shifts.pure rows

theorem fanOut {turn : σ → Run L (Turn σ ρ)} (hturn : ∀ x, Shifts R (turn x)) (turns : Nat)
    (f : FanOut σ ρ) : Shifts R (f.go turn turns) := by
  induction turns generalizing f with
  | zero => exact Shifts.pure f
  | succ turns ih =>
    have hstep : Shifts R (f.step turn) := by
      apply Shifts.getBind
      intro w
      dsimp only
      split
      · exact Shifts.pure _
      · apply Shifts.bind (h.waitUntil _)
        intro _
        apply Shifts.bind (hturn _)
        intro t
        exact Shifts.getBind fun w => Shifts.pure _
    apply Shifts.bind hstep
    intro next
    rcases next with _ | f'
    · exact Shifts.pure f
    · exact ih f'

theorem lookup (c : Settings) (limit : Nat) (epoch : Option Epoch) (ids : List DelegateId) :
    Shifts R (Lookup.run c limit epoch ids : Run L (List Found)) := by
  have hturn (x : Lookup epoch) : Shifts R (x.turn : Run L _) := by
    apply Shifts.bind (h.pageTurn x.read)
    intro turn
    rcases turn with reply | ⟨read, delay⟩ <;> exact Shifts.pure _
  exact Shifts.bind (h.fanOut hturn _ _) fun _ => Shifts.pure _

theorem fetchDelegates (c : Settings) (epoch : Epoch) :
    Shifts R (Run.fetchDelegates c epoch : Run L FetchedDelegates) := by
  apply Shifts.bind (h.listing c _)
  intro listed
  apply Shifts.bind
  · exact Shifts.bind (Shifts.mapM (fun batch => h.request c (.delegateInfo batch)) _) fun _ =>
      Shifts.pure _
  · exact fun infos => Shifts.bind (h.listing c _) fun _ => Shifts.pure _

theorem fetchInventory (c : Settings) (epoch : Epoch) :
    Shifts R (Run.fetchInventory c epoch : Run L (List DelegateSnapshot)) :=
  Shifts.bind (h.fetchDelegates c epoch) fun _ => Shifts.pure _

theorem knownTip (c : Settings) : Shifts R (Run.knownTip c : Run L Epoch) := by
  apply Shifts.getBind
  intro w
  split
  · exact Shifts.pure _
  · apply Shifts.bind (Shifts.bind (h.request c .tip) fun _ => Shifts.pure _)
    exact fun tip => Shifts.bind (fun w => h.remember w _) fun _ => Shifts.pure _

theorem inventory (c : Settings) (epoch : Epoch) :
    Shifts R (Run.inventory c epoch : Run L (List DelegateSnapshot)) := by
  apply Shifts.getBind
  intro w
  split
  · exact Shifts.pure _
  · apply Shifts.bind (h.readCall rfl)
    intro stored
    dsimp only
    split
    · exact Shifts.bind (h.fetchInventory c epoch) fun rows =>
        Shifts.bind (h.rememberInventory epoch rows) fun _ => Shifts.pure _
    · exact Shifts.bind (Shifts.pure _) fun rows =>
        Shifts.bind (h.rememberInventory epoch rows) fun _ => Shifts.pure _

theorem planEpochs (c : Settings) :
    Shifts R (Run.planEpochs c : Run L (EpochsReport × List Epoch)) := by
  apply Shifts.bind (h.knownTip c)
  intro tip
  split
  · exact Shifts.pure _
  · split
    · exact Shifts.pure _
    · exact Shifts.bind (h.readCall rfl) fun _ => Shifts.pure _

theorem syncEpochBy {c : Settings} {epoch : Epoch}
    (hstep : ∀ p step, Shifts R (Run.runStep c epoch p step : Run L _)) :
    Shifts R (Run.syncEpoch c epoch : Run L EpochReport) := by
  have hsteps (p : EpochCheckpoint) (steps : List EpochStep) :
      Shifts R (Run.runSteps c epoch p steps : Run L (List (EpochStep × Nat))) := by
    induction steps with
    | nil => exact Shifts.pure _
    | cons step rest ih =>
      exact Shifts.bind (hstep p step) fun _ => Shifts.bind ih fun _ => Shifts.pure _
  exact Shifts.bind (Shifts.bind (h.readCall rfl) fun _ => Shifts.pure _) fun p =>
    Shifts.bind (hsteps p _) fun _ => Shifts.pure _

theorem syncEpochsBy {c : Settings}
    (hstep : ∀ epoch p step, Shifts R (Run.runStep c epoch p step : Run L _)) :
    Shifts R (Run.syncEpochs c : Run L EpochsReport) :=
  Shifts.bind (h.planEpochs c) fun plan =>
    shiftEach c plan.1 plan.2 fun epoch _ => h.syncEpochBy (hstep epoch)

end

variable [IsPreorder (World L) R]

section

variable (h : World.Frame StoreCall.isEpochWrite R)
include h

theorem stepWork (c : Settings) (epoch : Epoch) (step : EpochStep) :
    Shifts R (Run.stepWork c epoch step : Run L Nat) := by
  cases step with
  | dreps =>
    exact Shifts.bind (h.fetchInventory c epoch) fun rows => Shifts.bind (h.writeCall rfl) fun _ =>
      Shifts.bind (h.rememberInventory epoch rows) fun _ => Shifts.pure _
  | totals =>
    refine Shifts.bind ?_ fun _ => Shifts.pure _
    exact Shifts.bind (h.request c _) fun _ => Shifts.bind (h.request c _) fun _ =>
      Shifts.bind (h.listing c _) fun _ => h.writeCall rfl
  | delegators =>
    apply Shifts.bind (h.inventory c epoch)
    intro rows
    apply Shifts.bind (h.lookup c _ _ _)
    intro found
    refine Shifts.bind (h.writeCall rfl) ?_
    intro _
    dsimp only
    split
    · exact Shifts.bind (Shifts.throw _) fun _ => Shifts.pure _
    · exact Shifts.pure _

theorem runStep (c : Settings) (epoch : Epoch) (p : EpochCheckpoint) (step : EpochStep) :
    Shifts R (Run.runStep c epoch p step : Run L (Option (EpochStep × Nat))) := by
  unfold Run.runStep
  split
  · exact Shifts.bind (h.stepWork c epoch step) fun _ => Shifts.getBind fun w =>
      Shifts.bind (h.writeCall rfl) fun _ => Shifts.pure _
  · exact Shifts.pure _

theorem syncEpochs (c : Settings) : Shifts R (Run.syncEpochs c : Run L EpochsReport) :=
  h.syncEpochsBy fun epoch p step => h.runStep c epoch p step

end

section

variable (h : World.Frame StoreCall.isDelegationWrite R)
include h

theorem backfillBatch (job : String) (total : UInt64)
    (histories : Table StakeAddress (List DelegationUpdate)) (before : UInt64) (b : Backfill)
    (batch : List StakeAddress) :
    Shifts R (Run.backfillBatch job total histories before b batch : Run L Backfill) := by
  induction batch generalizing before b with
  | nil => exact Shifts.pure b
  | cons address rest ih =>
    exact Shifts.getBind fun w => Shifts.bind (h.writeCall rfl) fun _ => ih _ _

theorem backfillBatches (c : Settings) (job : String) (total before : UInt64) (b : Backfill)
    (batches : List (List StakeAddress)) :
    Shifts R (Run.backfillBatches c job total before b batches : Run L Backfill) := by
  have hquota : Shifts R (quotaIsLow c : Run L Bool) := Shifts.getBind fun w => Shifts.pure _
  induction batches generalizing before b with
  | nil => exact Shifts.pure b
  | cons batch rest ih =>
    apply Shifts.bind hquota
    intro low
    split
    · exact Shifts.pure _
    · exact Shifts.bind (h.request c _) fun _ => Shifts.bind (h.backfillBatch _ _ _ _ _ _) fun _ =>
        ih _ _

theorem backfill (c : Settings) (job : String) (addresses : List StakeAddress)
    (cursor : Option BackfillCursor) :
    Shifts R (Run.backfill c job addresses cursor : Run L Backfill) := by
  unfold Run.backfill
  dsimp only
  split
  · exact Shifts.throw _
  · apply Shifts.bind (h.backfillBatches _ _ _ _ _ _)
    intro b
    split
    · refine Shifts.bind (h.writeCall rfl) fun _ => ?_
      split
      · exact Shifts.getBind fun w => Shifts.bind (h.writeCall rfl) fun _ => Shifts.pure _
      · exact Shifts.pure _
    · exact Shifts.pure _

theorem fullBackfill : Shifts R (Run.fullBackfill : Run L (Bool × Option BackfillCursor)) := by
  refine Shifts.bind (h.readCall rfl) fun done => Shifts.bind (h.readCall rfl) fun cursor => ?_
  split
  · exact Shifts.pure _
  · split
    · exact Shifts.pure _
    · exact Shifts.bind (h.readCall rfl) fun _ => Shifts.pure _

theorem backfillNew (c : Settings) (addresses : List StakeAddress) :
    Shifts R (Run.backfillNew c addresses : Run L (Bool × Backfill)) := by
  apply Shifts.bind h.fullBackfill
  rintro ⟨full, cursor⟩
  dsimp only
  split
  · exact Shifts.bind (h.backfill _ _ _ _) fun _ => Shifts.pure _
  · split
    · exact Shifts.pure _
    · exact Shifts.bind (h.readCall rfl) fun _ => Shifts.bind (h.backfill _ _ _ _) fun _ =>
        Shifts.pure _

theorem backfilledStates (b : Backfill) :
    Shifts R (Run.backfilledStates b : Run L (Table StakeAddress DelegationState)) := by
  unfold Run.backfilledStates
  split
  · exact Shifts.pure _
  · exact h.readCall rfl

theorem writeDifferences (c : Settings) (ds : List Difference) :
    Shifts R (Run.writeDifferences c ds : Run L Unit) := by
  unfold Run.writeDifferences
  induction batches c.writeBatchSize ds with
  | nil => exact Shifts.pure ()
  | cons batch rest ih => exact Shifts.bind (h.writeCall rfl) fun _ => ih

theorem syncDelegations (c : Settings) :
    Shifts R (Run.syncDelegations c : Run L DelegationsReport) := by
  have hcompleted : Shifts R (latestCompleted c : Run L Epoch) := by
    apply Shifts.bind (h.knownTip c)
    intro tip
    split
    · exact Shifts.pure _
    · exact Shifts.throw _
  apply Shifts.bind hcompleted
  intro epoch
  apply Shifts.bind (h.inventory c epoch)
  intro rows
  apply Shifts.bind (h.lookup c _ _ _)
  intro found
  refine Shifts.bind (h.readCall rfl) fun stored => ?_
  apply Shifts.bind (h.backfillNew c _)
  rintro ⟨full, b⟩
  apply Shifts.bind (h.backfilledStates b)
  intro backfilled
  apply Shifts.getBind
  intro w
  exact Shifts.bind (h.writeDifferences c _) fun _ => Shifts.pure _

end

end World.Frame

end GovernanceIndex
