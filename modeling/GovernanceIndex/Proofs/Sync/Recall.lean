import GovernanceIndex.Proofs.Sync.Charted

/-!
What is remembered is what would be read. Against fixed replies that list every delegate once, the
rows that a sync of epochs puts into a charted store, and remembers, are all that a later read of
the store has of the epoch. So behind the sync a cycle observes the same with and without what is
remembered.
-/
namespace GovernanceIndex

open World (Fixed)

namespace Replies

/-- The service lists every delegate once. -/
def ListsOnce (f : Replies) (c : Settings) : Prop :=
  ∀ listed, f.rows c.pageSize .delegates = .ok listed → (listed.map fun d => d.delegate).Nodup

/-- What is remembered is what would be requested or read of a store. -/
structure Recalls (f : Replies) (c : Settings) (s : Store) (k : JobCache) : Prop where
  tip : ∀ e ∈ k.tip, f.knownTip {} = .ok e
  inventories : ∀ e, ∀ rows ∈ k.inventories.get? e, f.inventoryOver c s {} e = .ok rows

variable {f : Replies} {c : Settings} {s s' : Store} {k : JobCache} {e : Epoch}
  {rows : List DelegateSnapshot}

theorem exists_merge_of_inventory (h : f.inventory c e = .ok rows) :
    ∃ listed infos powers, f.rows c.pageSize .delegates = .ok listed ∧
      rows = Inventory.merge e listed infos powers := by
  unfold inventory at h
  rcases hlisted : f.rows c.pageSize .delegates with cause | listed <;> rw [hlisted] at h
  · cases h
  · simp only [bind, Except.bind] at h
    split at h
    · cases h
    · split at h
      · cases h
      · exact ⟨listed, _, _, rfl, (Except.ok.inj h).symm⟩

theorem failed_of_halting {α : Type} {r : Except LedgerError α} {halt : Halt}
    (h : halting r = .error halt) : ∃ cause, halt = .failed cause := by
  rcases r with cause | a
  · exact ⟨_, (Except.error.inj h).symm⟩
  · cases h

theorem recalls_empty (f : Replies) (c : Settings) (s : Store) : f.Recalls c s {} :=
  ⟨nofun, nofun⟩

namespace Recalls

variable (h : f.Recalls c s k)
include h

theorem knownTip : f.knownTip k = f.knownTip {} := by
  rcases htip : k.tip with _ | e
  · unfold Replies.knownTip
    rw [htip]
  · rw [h.tip e htip]
    unfold Replies.knownTip
    rw [htip]

theorem inventoryOver (e : Epoch) : f.inventoryOver c s k e = f.inventoryOver c s {} e := by
  rcases hrows : k.inventories.get? e with _ | rows
  · unfold Replies.inventoryOver
    rw [hrows]
    rfl
  · rw [h.inventories e rows hrows]
    unfold Replies.inventoryOver
    rw [hrows]

/-- A cycle observes the same with and without what is remembered. -/
theorem observed : f.observed c s k = f.observed c s {} := by
  unfold Replies.observed
  simp only [h.knownTip, h.inventoryOver]

theorem congr (hrows : s'.snapshots = s.snapshots) : f.Recalls c s' k := by
  refine ⟨h.tip, fun e rows he => ?_⟩
  have hover : f.inventoryOver c s' {} e = f.inventoryOver c s {} e := by
    unfold Replies.inventoryOver Store.snapshotsOf
    rw [hrows]
  exact hover.trans (h.inventories e rows he)

theorem withTip (he : f.knownTip k = .ok e) : f.Recalls c s { k with tip := some e } := by
  refine ⟨fun e' he' => ?_, h.inventories⟩
  obtain rfl := Option.some.inj he'
  exact h.knownTip.symm.trans he

theorem recalling (hrows : f.inventoryOver c s k e = .ok rows) :
    f.Recalls c s (k.recall e rows) := by
  unfold JobCache.recall
  split
  · exact h
  · refine ⟨h.tip, fun e' rows' he' => ?_⟩
    dsimp only at he'
    rw [Table.get?_insert] at he'
    split at he'
    · next hsame =>
      obtain rfl := Option.some.inj he'
      rw [hsame, ← h.inventoryOver]
      exact hrows
    · exact h.inventories e' rows' he'

theorem put (hf : f.ListsOnce c) (hfiled : s.Filed) (hempty : s.snapshotsOf e = [])
    (hrows : f.inventory c e = .ok rows) :
    f.Recalls c (s.putSnapshots rows)
      { k with inventories := k.inventories.insert e rows } := by
  obtain ⟨listed, infos, powers, hlisted, rfl⟩ := exists_merge_of_inventory hrows
  let fetched : FetchedDelegates := ⟨listed, infos, powers⟩
  have hepoch := Inventory.merge_epoch e listed infos powers
  have hnodup : ((fetched.inventory e).map fun r => r.delegate).Nodup :=
    fetched.inventory_nodup (hf listed hlisted) e
  have hstored := hfiled.snapshotsOf_putSnapshots hempty hepoch hnodup
    (fetched.inventory_conserves e).ordered
  refine ⟨h.tip, fun e' rows' he' => ?_⟩
  dsimp only at he'
  rw [Table.get?_insert] at he'
  split at he'
  · next hsame =>
    obtain rfl := Option.some.inj he'
    subst hsame
    change (if _ then f.inventory c e' else _) = _
    rw [hstored]
    split
    · exact hrows
    · rfl
  · next hother =>
    have hkept := (Store.Works.putSnapshots s hepoch).rows e' .dreps fun hsame => hother hsame.1
    rw [← h.inventories e' rows' he']
    change (if _ then f.inventory c e' else _) = if _ then f.inventory c e' else _
    rw [StepRows.delegates.inj hkept]

end Recalls

end Replies

/-- A world with fixed replies and a charted store, in which what is remembered is what would be
read. -/
structure World.Recalling {L : Type} [LedgerService L] (f : Replies) (c : Settings) (w : World L) :
    Prop where
  fixed : w.Fixed f w.store w.cache
  charted : w.store.Charted
  recalls : f.Recalls c w.store w.cache

open World (Recalling)

variable {L α β : Type} [LedgerService L] {f : Replies} {c : Settings} {s : Store} {k : JobCache}
  {epoch : Epoch}

theorem World.Recalling.of_fixed {w : World L} (h : w.Fixed f s k) (hs : s.Charted)
    (hk : f.Recalls c s k) : w.Recalling f c := by
  obtain rfl := h.cache
  exact ⟨h.here, hs.sameData h.data, hk.congr (h.data.eq fun s => s.snapshots)⟩

namespace Run

/-- An action keeps what is remembered true to what would be read, and halts by a failure only. -/
def Recollects (f : Replies) (c : Settings) (m : Run L α) : Prop :=
  Outcomes (Recalling f c) m (fun _ => Recalling f c)
    fun halt w => (∃ cause, halt = .failed cause) ∧ w.Recalling f c

namespace Recollects

variable {m : Run L α}

theorem pure (a : α) : Recollects f c (pure a : Run L α) := Outcomes.pure fun _ => id

theorem fail (cause : SyncError) : Recollects f c (fail cause : Run L α) :=
  Outcomes.throw fun _ hw => ⟨⟨cause, rfl⟩, hw⟩

theorem bind {g : α → Run L β} (hm : Recollects f c m) (hg : ∀ a, Recollects f c (g a)) :
    Recollects f c (m >>= g) := Outcomes.bind hm hg

theorem getBind {g : World L → Run L α} (h : ∀ w, Recollects f c (g w)) :
    Recollects f c (get >>= g) := Outcomes.getBind fun w _ => h w

theorem of_yields {r : Except LedgerError α} (h : ∀ s k, Yields (Fixed f s k) m r) :
    Recollects f c m := by
  intro w hw
  have hends := h w.store w.cache w hw.fixed
  rcases hr : m w with ⟨halt | a, v⟩ <;> rw [hr] at hends <;> obtain ⟨he, hv⟩ := hends
  · exact ⟨Replies.failed_of_halting he, .of_fixed hv hw.charted hw.recalls⟩
  · exact .of_fixed hv hw.charted hw.recalls

theorem of_triple (h : Triple (Recalling f c) m (fun _ => Recalling f c) fun _ => False) :
    Recollects f c m := Outcomes.of_triple h

end Recollects

theorem recollectCall {k : StoreCall} {effect : Store → k.Result × Store}
    (hk : ∀ s : Store, s.perform k = .ok (effect s))
    (heffect : ∀ s : Store, (effect s).2.snapshots = s.snapshots ∧
      ∀ e, (effect s).2.syncedAt e .dreps = s.syncedAt e .dreps) :
    Triple (Recalling f c) (call k : Run L k.Result) (fun _ => Recalling f c) fun _ => False := by
  intro w hw
  obtain ⟨v, hr, hv, hstore⟩ := hw.fixed.faultless.call_apply hk
  obtain ⟨hrows, hmarks⟩ := heffect w.store
  rw [hr]
  have hfixed : v.Fixed f v.store w.cache :=
    hv ▸ hw.fixed.call k (refl_of Store.SameData (w.call k).2.store)
  rw [hstore] at hfixed
  exact .of_fixed hfixed (hw.charted.congr hrows hmarks) (hw.recalls.congr hrows)

theorem recollectLookup (c : Settings) (limit : Nat) (epoch : Option Epoch)
    (ids : List DelegateId) :
    Recollects f c (Lookup.run c limit epoch ids : Run L (List Found)) := by
  intro w hw
  have hends := fixedLookup c limit epoch ids w hw.fixed
  rcases hr : (Lookup.run c limit epoch ids : Run L _) w with ⟨_ | found, v⟩ <;> rw [hr] at hends
  · exact hends.elim
  · exact .of_fixed hends.2 hw.charted hw.recalls

theorem recollectInventory (c : Settings) (epoch : Epoch) :
    Recollects f c (inventory c epoch : Run L (List DelegateSnapshot)) := by
  intro w hw
  have hends := fixedInventory c epoch w hw.fixed
  rcases hr : inventory c epoch w with ⟨halt | rows, v⟩ <;> rw [hr] at hends <;>
    obtain ⟨he, hv⟩ := hends
  · exact ⟨Replies.failed_of_halting he, .of_fixed hv hw.charted hw.recalls⟩
  · exact .of_fixed hv hw.charted (hw.recalls.recalling he)

theorem fixedPutSnapshots (rows : List DelegateSnapshot) {E : Halt → World L → Prop} :
    Outcomes (Fixed f s k) (call (.putSnapshots rows) : Run L Unit)
      (fun _ => Fixed f (s.putSnapshots rows) k) E := by
  have hput (s : Store) : s.perform (.putSnapshots rows) = .ok ((), s.putSnapshots rows) := rfl
  exact fixedWrite hput fun _ _ hs => congrArg (fun s : Store => s.putSnapshots rows) hs

theorem fixedMarkStep (epoch : Epoch) (step : EpochStep) (now : Timestamp)
    {E : Halt → World L → Prop} :
    Outcomes (Fixed f s k) (call (.markStep epoch step now) : Run L Unit)
      (fun _ => Fixed f (s.markStep epoch step now) k) E := by
  have hmark (s : Store) :
      s.perform (.markStep epoch step now) = .ok ((), s.markStep epoch step now) := rfl
  exact fixedWrite hmark fun _ _ hs => congrArg (fun s : Store => s.markStep epoch step now) hs

theorem fixedDelegates (c : Settings) (epoch : Epoch) :
    Outcomes (Fixed f s k) (stepWork c epoch .dreps : Run L Nat)
      (fun _ w => ∃ rows, f.inventory c epoch = .ok rows ∧ w.Fixed f (s.putSnapshots rows)
        { k with inventories := k.inventories.insert epoch rows })
      (fun halt w => (∃ cause, halt = .failed cause) ∧ w.Fixed f s k) := by
  apply Outcomes.bind ((fixedFetchInventory c epoch).mono (fun _ => id) (fun _ _ => id) _)
  · intro rows
    apply Outcomes.assuming
    intro hrows
    apply Outcomes.bind (fixedPutSnapshots rows)
    intro _
    apply Outcomes.bind (fixedRemember epoch rows)
    exact fun _ => Outcomes.pure fun w hw => ⟨rows, hrows, hw⟩
  · rintro halt w ⟨he, hw⟩
    exact ⟨Replies.failed_of_halting he, hw⟩

theorem recollectDelegates (hf : f.ListsOnce c) (p : EpochCheckpoint) (hs : s.Charted)
    (hk : f.Recalls c s k) (hempty : c.wants p .dreps → s.snapshotsOf epoch = []) :
    Outcomes (Fixed f s k) (runStep c epoch p .dreps : Run L (Option (EpochStep × Nat)))
      (fun _ => Recalling f c)
      (fun halt w => (∃ cause, halt = .failed cause) ∧ w.Recalling f c) := by
  unfold runStep
  split
  · next hwants =>
    apply Outcomes.bind ((fixedDelegates c epoch).mono (fun _ => id) (fun _ _ => id)
      fun halt w hw => ⟨hw.1, .of_fixed hw.2 hs hk⟩)
    rintro written w ⟨rows, hrows, hw⟩
    obtain ⟨listed, infos, powers, -, hmerge⟩ := Replies.exists_merge_of_inventory hrows
    have hfilling : (s.putSnapshots rows).Filling epoch :=
      ⟨s, rows, hs, hmerge ▸ Inventory.merge_epoch _ _ _ _, rfl⟩
    have hrecalls := hk.put hf hs.filed (hempty hwants) hrows
    -- The rest starts from the data with the rows in it, and what was remembered with them.
    generalize { k with inventories := k.inventories.insert epoch rows } = k' at hw hrecalls
    revert hw w
    change Outcomes (Fixed f (s.putSnapshots rows) k') _ _ _
    apply Outcomes.getBind
    intro w _
    apply Outcomes.bind (fixedMarkStep epoch .dreps w.now)
    intro _
    exact Outcomes.pure fun _ hw => .of_fixed hw (hfilling.markStep w.now) (hrecalls.congr rfl)
  · exact Outcomes.pure fun w hw => .of_fixed hw hs hk

theorem recollectStep (p : EpochCheckpoint) {step : EpochStep} (hstep : step ≠ .dreps) :
    Recollects f c (runStep c epoch p step : Run L (Option (EpochStep × Nat))) := by
  have hwork : Recollects f c (stepWork c epoch step : Run L Nat) := by
    cases step with
    | dreps => exact absurd rfl hstep
    | totals =>
      refine Recollects.bind ?_ fun _ => Recollects.pure _
      apply Recollects.bind (.of_yields fun s k => fixedRequest c (.supplyTotals epoch))
      intro supply
      apply Recollects.bind (.of_yields fun s k => fixedRequest c (.delegationTotal epoch))
      intro delegated
      apply Recollects.bind (.of_yields fun s k => fixedListing c (.poolPower epoch))
      intro pools
      exact .of_triple (recollectCall (fun _ => rfl) fun _ => ⟨rfl, fun _ => rfl⟩)
    | delegators =>
      apply Recollects.bind (recollectInventory c epoch)
      intro rows
      apply Recollects.bind (recollectLookup c _ _ _)
      intro found
      refine Recollects.bind (.of_triple (recollectCall (fun _ => rfl) fun _ =>
        ⟨rfl, fun _ => rfl⟩)) fun _ => ?_
      dsimp only
      split
      · exact Recollects.bind (.fail _) fun _ => Recollects.pure _
      · exact Recollects.pure _
  unfold runStep
  split
  · apply Recollects.bind hwork
    intro written
    apply Recollects.getBind
    intro w
    refine Recollects.bind (.of_triple (recollectCall (fun _ => rfl) fun s => ⟨rfl, fun e => ?_⟩))
      fun _ => Recollects.pure _
    exact (s.markStep_syncedAt _ _ _ _ _).trans (if_neg fun hsame => hstep hsame.2.symm)
  · exact Recollects.pure _

theorem recollectSteps (p : EpochCheckpoint) {steps : List EpochStep} (hsteps : .dreps ∉ steps) :
    Recollects f c (runSteps c epoch p steps : Run L (List (EpochStep × Nat))) := by
  induction steps with
  | nil => exact Recollects.pure _
  | cons step rest ih =>
    obtain ⟨hfirst, hrest⟩ := not_or.mp fun hmem => hsteps (List.mem_cons.mpr hmem)
    exact Recollects.bind (recollectStep p (Ne.symm hfirst)) fun _ =>
      Recollects.bind (ih hrest) fun _ => Recollects.pure _

theorem recollectEpoch (hf : f.ListsOnce c) (epoch : Epoch) :
    Recollects f c (syncEpoch c epoch : Run L EpochReport) := by
  intro w hw
  have hstore : (w.call (.checkpoint epoch)).2.store = w.store := World.call_store rfl w
  have hfixed : (w.call (.checkpoint epoch)).2.Fixed f w.store w.cache :=
    hw.fixed.call _ (hstore ▸ refl_of Store.SameData w.store)
  unfold syncEpoch
  rcases checkpoint_cases epoch w with ⟨p, hread, hp⟩ | ⟨halt, hread⟩
  · rw [bind_apply_of_ok hread]
    have hempty (hwants : c.wants p .dreps) : w.store.snapshotsOf epoch = [] := by
      apply hw.charted.unmarked
      have hdone : p.isDone .dreps = false := by
        simpa [Settings.wants] using hwants
      rw [hp] at hdone
      exact Option.isSome_eq_false_iff.mp hdone |> Option.isNone_iff_eq_none.mp
    have hsteps : Outcomes (Fixed f w.store w.cache) (do
          let ran ← runSteps c epoch p EpochStep.all
          return {
            epoch
            stepsRun := ran.map Prod.fst
            delegatesWritten := (ran.lookup .dreps).getD 0
            summariesWritten := (ran.lookup .delegators).getD 0 } : Run L EpochReport)
        (fun _ => Recalling f c)
        (fun halt w => (∃ cause, halt = .failed cause) ∧ w.Recalling f c) := by
      have hrest : Recollects f c
          (runSteps c epoch p [.totals, .delegators] : Run L (List (EpochStep × Nat))) :=
        recollectSteps p (by decide)
      have hall := Outcomes.bind (recollectDelegates hf p hw.charted hw.recalls hempty) fun first =>
        Outcomes.bind hrest fun others => Recollects.pure (L := L) (first.toList ++ others)
      exact Outcomes.bind hall fun _ => Recollects.pure _
    exact hsteps _ hfixed
  · obtain ⟨v, hr, -⟩ := hw.fixed.faultless.call_apply (c := .checkpoint epoch) fun _ => rfl
    have hok : checkpoint epoch w = (.ok _, v) := bind_apply_of_ok hr _
    cases hok.symm.trans hread

theorem recollectEach (hf : f.ListsOnce c) (report : EpochsReport) (epochs : List Epoch) :
    Triple (Recalling f c) (syncEach c report epochs : Run L EpochsReport)
      (fun _ => Recalling f c) fun _ => False := by
  induction epochs generalizing report with
  | nil => exact Triple.pure fun _ => id
  | cons epoch rest ih =>
    have hattempt : Triple (Recalling f c) (attempt (syncEpoch c epoch) : Run L _)
        (fun _ => Recalling f c) fun _ => False := by
      intro w hw
      have hends := recollectEpoch hf epoch w hw
      rw [attempt_apply]
      rcases hr : syncEpoch c epoch w with ⟨halt | _, v⟩ <;> rw [hr] at hends
      · obtain ⟨⟨cause, rfl⟩, hv⟩ := hends
        exact hv
      · exact hends
    apply Triple.bind hattempt
    intro r
    rcases r with cause | _ <;> exact ih _

/-- Behind a sync of epochs what is remembered is what would be read. The sync halts only if the tip
cannot be had. -/
theorem recollectEpochs (hf : f.ListsOnce c) :
    Outcomes (Recalling f c) (syncEpochs c : Run L EpochsReport) (fun _ => Recalling f c)
      (fun halt w => Replies.halting (f.knownTip {}) = .error halt ∧ w.Recalling f c) := by
  have htip : Outcomes (Recalling f c) (knownTip c : Run L Epoch) (fun _ => Recalling f c)
      (fun halt w => Replies.halting (f.knownTip {}) = .error halt ∧ w.Recalling f c) := by
    intro w hw
    have hends := fixedKnownTip c w hw.fixed
    rcases hr : knownTip c w with ⟨halt | e, v⟩ <;> rw [hr] at hends <;> obtain ⟨he, hv⟩ := hends
    · exact ⟨hw.recalls.knownTip ▸ he, .of_fixed hv hw.charted hw.recalls⟩
    · exact .of_fixed hv hw.charted (hw.recalls.withTip he)
  have hplan : Outcomes (Recalling f c) (planEpochs c : Run L (EpochsReport × List Epoch))
      (fun _ => Recalling f c)
      (fun halt w => Replies.halting (f.knownTip {}) = .error halt ∧ w.Recalling f c) := by
    apply Outcomes.bind htip
    intro tip
    split
    · exact Outcomes.pure fun _ => id
    · next last _ =>
      split
      · exact Outcomes.pure fun _ => id
      · have hread := recollectCall (L := L) (f := f) (c := c)
          (k := .checkpoints c.backfillFrom last) (fun _ => rfl) fun _ => ⟨rfl, fun _ => rfl⟩
        exact Outcomes.bind (Outcomes.of_triple hread) fun _ => Outcomes.pure fun _ => id
  exact Outcomes.bind hplan fun plan =>
    Outcomes.of_triple (recollectEach hf plan.1 plan.2)

end Run

end GovernanceIndex
