import GovernanceIndex.Proofs.Run.Regime
import GovernanceIndex.Proofs.Sync.EpochInventory

/-!
The requests of a sync of an epoch. Every step comes to endpoints of its own, and it sends nothing
once it is marked. The inventory is the exception: the last step needs it too, and where it is
neither remembered nor stored with a single row, it is requested although the first step is marked.
-/
namespace GovernanceIndex

namespace Store

variable {s s' : Store} {epoch : Epoch}

theorem snapshotsOf_eq_nil_iff :
    s.snapshotsOf epoch = [] ↔ ∀ k ∈ s.snapshots.keys, k.1 ≠ epoch := by
  unfold snapshotsOf ofEpoch Table.keys
  rw [List.map_eq_nil_iff, ← List.length_eq_zero_iff, List.length_mergeSort,
    List.length_eq_zero_iff, List.filter_eq_nil_iff, List.forall_mem_map]
  simp

theorem snapshotsOf_ne_nil {c : StoreCall} {a : c.Result} (hc : s.perform c = .ok (a, s'))
    (h : s.snapshotsOf epoch ≠ []) : s'.snapshotsOf epoch ≠ [] := by
  rcases snapshots_of_perform hc with hsame | ⟨rows, rfl⟩
  · unfold snapshotsOf at h ⊢
    rw [hsame]
    exact h
  · rw [Ne, snapshotsOf_eq_nil_iff] at h ⊢
    intro hnone
    apply h
    intro k hk
    apply hnone
    rw [Table.mem_keys] at hk ⊢
    rw [putSnapshots_get?, Option.isSome_or, hk, Bool.or_true]

end Store

namespace World

variable {L : Type} {w w' : World L} {epoch : Epoch}

theorem HasInventory.call (h : w.HasInventory epoch) (c : StoreCall) :
    (w.call c).2.HasInventory epoch := by
  obtain ⟨-, hcache, -⟩ := w.call_frame c
  rcases h with hremembered | hstored
  · left
    rw [hcache]
    exact hremembered
  · right
    rcases w.call_cases c with ⟨r, w', hr, hp⟩ | ⟨cause, w', hr, hs⟩ <;> rw [hr]
    · exact Store.snapshotsOf_ne_nil hp hstored
    · change w'.store.snapshotsOf epoch ≠ []
      rw [hs]
      exact hstored

def Sent (S : Endpoint → Prop) (w w' : World L) : Prop :=
  ∃ sent, w'.requests = sent ++ w.requests ∧ ∀ x ∈ sent, S x.2.endpoint

variable {S : Endpoint → Prop}

theorem Sent.refl (S : Endpoint → Prop) (w : World L) : Sent S w w :=
  ⟨[], rfl, fun _ h => by cases h⟩

theorem Sent.ask [LedgerService L] (h : Sent S w w') {q : Request} (hq : S q.endpoint) :
    Sent S w (w'.ask q).2 := by
  obtain ⟨sent, hsent, hall⟩ := h
  exact ⟨(w'.clock, q) :: sent, congrArg _ hsent, List.forall_mem_cons.mpr ⟨hq, hall⟩⟩

theorem call_requests (w : World L) (c : StoreCall) : (w.call c).2.requests = w.requests := by
  obtain ⟨store, faults, writes, h⟩ := w.call_changes c
  rw [h]

theorem call_writes {c : StoreCall} (hc : c.isWrite = false) (w : World L) :
    (w.call c).2.writes = w.writes := by
  rcases w.call_noted c with h | ⟨-, h⟩ <;> rw [h]
  rw [hc]
  rfl

theorem Sent.call (h : Sent S w w') (c : StoreCall) : Sent S w (w'.call c).2 := by
  obtain ⟨sent, hsent, hall⟩ := h
  exact ⟨sent, (w'.call_requests c).trans hsent, hall⟩

end World

namespace World

variable {L : Type}

/-- A step of an epoch is to be run in a world: it is not marked, and the last one is wanted. -/
def Due (c : Settings) (epoch : Epoch) (w : World L) (step : EpochStep) : Prop :=
  w.store.syncedAt epoch step = none ∧ (step = .delegators → c.includeDelegators)

/-- The endpoints that a sync of an epoch may come to: those of the steps that are due, and those of
the inventory if the last step is due and no inventory is at hand. -/
def Demands (c : Settings) (epoch : Epoch) (w : World L) (x : Endpoint) : Prop :=
  ∃ step, x ∈ step.endpoints ∧
    (w.Due c epoch step ∨
      step = .dreps ∧ w.Due c epoch .delegators ∧ ¬ w.HasInventory epoch)

end World

open World (Sent Due Demands)

/-- What a sync of an epoch may do that starts from a world. -/
def demandRegime {L : Type} [LedgerService L] (c : Settings) (epoch : Epoch) (w₀ : World L) :
    Regime L where
  permits q := Demands c epoch w₀ q.endpoint
  answers _ _ := True
  holds w := Sent (Demands c epoch w₀) w₀ w ∧ (w₀.HasInventory epoch → w.HasInventory epoch)
  halts _ := True
  ask _ _ hq hw := ⟨⟨hw.1.ask hq, hw.2⟩, by split <;> trivial⟩
  read _ c _ hw := ⟨⟨hw.1.call c, fun h => (hw.2 h).call c⟩, fun _ _ => trivial⟩
  renew _ _ _ hw := ⟨hw.1.call _, fun h => (hw.2 h).call _⟩
  tick _ _ _ hw := hw
  late _ _ _ := trivial
  tip _ e _ _ := ⟨⟨e, none, none⟩, trivial, rfl⟩
  remember _ _ _ hw := hw

namespace Run

variable {L : Type} [LedgerService L] {c : Settings} {epoch : Epoch} {w₀ : World L}
  {step : EpochStep}

theorem demandRegime_grants (hdue : w₀.Due c epoch step) :
    (demandRegime c epoch w₀).Grants epoch step where
  own _ hx _ hq _ := ⟨step, hq ▸ hx, .inl hdue⟩
  inventory hstep _ hw hnone _ hx _ hq _ :=
    ⟨.dreps, hq ▸ hx, .inr ⟨rfl, hstep ▸ hdue, fun h => hnone (hw.2 h)⟩⟩
  write k _ := by
    apply Regime.call
    intro w hw
    refine ⟨⟨hw.1.call k, fun h => (hw.2 h).call k⟩, ?_⟩
    split <;> trivial
  remember _ _ hw := by
    refine ⟨hw.1, fun _ => .inl ?_⟩
    rw [Table.get?_insert, if_pos rfl]
    rfl
  incomplete _ _ _ _ := trivial

omit [LedgerService L] in
theorem wants_iff {p : EpochCheckpoint} {w : World L}
    (hp : p.isDone step = (w.store.syncedAt epoch step).isSome) :
    c.wants p step ↔ w.Due c epoch step := by
  unfold Settings.wants World.Due
  rw [hp]
  by_cases hstep : step = .delegators <;> simp [hstep]

theorem runSteps_idle {p : EpochCheckpoint} (steps : List EpochStep)
    (hp : ∀ step, ¬ c.wants p step) (w : World L) :
    runSteps c epoch p steps w = (.ok [], w) := by
  induction steps with
  | nil => rfl
  | cons step rest ih =>
    have hidle : runStep c epoch p step w = (.ok none, w) := by
      unfold runStep
      rw [if_neg (hp step)]
      rfl
    unfold runSteps
    rw [bind_apply_of_ok hidle, bind_apply_of_ok ih]
    rfl

theorem syncEpoch_idle {w : World L} (hnone : ∀ step, ¬ w.Due c epoch step) :
    (syncEpoch c epoch w).2 = (w.call (.checkpoint epoch)).2 := by
  unfold syncEpoch
  rcases checkpoint_cases epoch w with ⟨p, hread, hp⟩ | ⟨halt, hread⟩
  · have hidle (step : EpochStep) : ¬ c.wants p step := (wants_iff (hp step)).not.mpr (hnone step)
    rw [bind_apply_of_ok hread, bind_apply_of_ok (runSteps_idle EpochStep.all hidle _)]
    rfl
  · rw [bind_apply_of_error hread]

/-- A sync of an epoch sends requests of the steps that are not marked only, apart from those for
the inventory if the last step is to be run and no inventory is at hand. An epoch of which no step
is to be run sends no request and writes nothing. -/
theorem syncEpoch_requests (c : Settings) (epoch : Epoch) (w : World L) :
    let w' := (syncEpoch c epoch w).2
    (∃ sent, w'.requests = sent ++ w.requests ∧ ∀ x ∈ sent, Demands c epoch w x.2.endpoint) ∧
      ((∀ step, ¬ w.Due c epoch step) →
        w'.requests = w.requests ∧ w'.writes = w.writes ∧ w'.store = w.store) := by
  intro w'
  let w₁ := (w.call (.checkpoint epoch)).2
  have hstart : (demandRegime c epoch w).holds w₁ :=
    ⟨(Sent.refl _ w).call _, fun h => h.call _⟩
  have hidle : w₁.requests = w.requests ∧ w₁.writes = w.writes ∧ w₁.store = w.store :=
    ⟨w.call_requests _, World.call_writes rfl w, World.call_store rfl w⟩
  rcases checkpoint_cases epoch w with ⟨p, hread, hp⟩ | ⟨halt, hread⟩
  · have hsync : w' = (runSteps c epoch p EpochStep.all w₁).2 := by
      change (syncEpoch c epoch w).2 = _
      unfold syncEpoch
      rw [bind_apply_of_ok hread, bind_apply]
      rcases runSteps c epoch p EpochStep.all w₁ with ⟨_ | ran, v⟩ <;> rfl
    rw [hsync]
    constructor
    · have hsteps := Regime.runSteps EpochStep.all (r := demandRegime c epoch w) fun step hwants =>
        demandRegime_grants ((wants_iff (hp step)).mp hwants)
      exact (hsteps w₁ hstart).1.1
    · intro hnone
      have hidle' (step : EpochStep) : ¬ c.wants p step := (wants_iff (hp step)).not.mpr (hnone step)
      rw [runSteps_idle EpochStep.all hidle']
      exact hidle
  · have hsync : w' = w₁ := congrArg Prod.snd (bind_apply_of_error hread _)
    rw [hsync]
    exact ⟨hstart.1, fun _ => hidle⟩

/-- A second sync of an epoch that is complete sends nothing and writes nothing. -/
theorem syncEpoch_requests_complete :
    let k := EpochCall.resumed
    let w := k.world.withStore (k.run {})
    let w' := (syncEpoch k.settings ⟨7⟩ w).2
    (∀ step, ¬ w.Due k.settings ⟨7⟩ step) ∧
      w'.requests = w.requests ∧ w'.writes = w.writes ∧ w'.store = w.store := by
  intro k w w'
  have hnone (step : EpochStep) : ¬ w.Due k.settings ⟨7⟩ step := by
    unfold World.Due
    cases step <;> decide +kernel
  exact ⟨hnone, (syncEpoch_requests k.settings ⟨7⟩ w).2 hnone⟩

/-- A sync that was interrupted behind the first step marked it without a row. The next one has the
last step to run and requests the inventory again. -/
theorem syncEpoch_requests_marked :
    let k := EpochCall.resumed
    let w := k.world.withStore (EpochCall.interrupted.run {})
    let endpoints := (syncEpoch k.settings ⟨7⟩ w).2.requests.map fun x => x.2.endpoint
    (w.store.syncedAt ⟨7⟩ .dreps).isSome ∧ w.requests = [] ∧ w.cache.inventories.entries = [] ∧
      .drepList ∈ endpoints ∧ .drepVotingPower ∈ endpoints := by
  decide +kernel

end Run

end GovernanceIndex
