import GovernanceIndex.Proofs.Sync.DelegatorTargets
import GovernanceIndex.Proofs.Sync.QuietRuns

/-!
What the mark of the last step of an epoch stands for. The step looks up the delegators of every
delegate of an inventory that has power, stores a summary for each lookup that succeeds, and marks
itself only if none failed. Its inventory is the one that the first step put in the same run, or the
stored one; either way no stored row with power is missing from it. So behind the run that marks the
step every such row has one summary, which is that of the list returned in that run, whatever
earlier attempts left.
-/
namespace GovernanceIndex

open Inventory (Aims)
open LedgerService (returned)
open Store (Tallied)
open World (Quiet)

namespace World

variable {L : Type} [LedgerService L] {e : Epoch} {w w' w'' : World L}

/-- From a world to another one an epoch was summed up along the requests that were sent. -/
def SumsUp (e : Epoch) (w w' : World L) : Prop :=
  ∃ qs, w.Sends qs w' ∧ w'.store.SummedUp e w.ledger qs

theorem Quiet.sumsUp (h : Quiet e w w') (h' : SumsUp e w' w'') : SumsUp e w w'' := by
  obtain ⟨qs, hsends, hqs⟩ := h
  obtain ⟨rs, hsends', hsummed⟩ := h'
  refine ⟨qs ++ rs, hsends.trans hsends', fun r hr hpower => ?_⟩
  rw [hsummed r hr hpower, LedgerService.returned_append, LedgerService.returned_eq_nil _ hqs,
    List.nil_append, hsends.ledger]

theorem SumsUp.quiet (h : SumsUp e w w') (hquiet : Quiet e w' w'')
    (hrows : w''.store.snapshotsOf e = w'.store.snapshotsOf e)
    (hsummaries : w''.store.summariesOf e = w'.store.summariesOf e) : SumsUp e w w'' := by
  obtain ⟨qs, hsends, hsummed⟩ := h
  obtain ⟨rs, hsends', hrs⟩ := hquiet
  refine ⟨qs ++ rs, hsends.trans hsends', fun r hr hpower => ?_⟩
  rw [hrows] at hr
  rw [hsummaries, hsummed r hr hpower, LedgerService.returned_append,
    LedgerService.returned_eq_nil _ hrs, List.append_nil]

/-- An epoch is ready for its last step: each row is stored once, what is remembered of its
inventory aims at the stored one, and the step is not marked. -/
structure Primed (e : Epoch) (w : World L) : Prop where
  filed : w.store.Filed
  tallied : w.store.Tallied
  aims : ∀ rows ∈ w.cache.inventories.get? e, Aims rows (w.store.snapshotsOf e)
  unmarked : w.store.syncedAt e .delegators = none

omit [LedgerService L] in
theorem Primed.congr (h : Primed e w) (hcache : w'.cache.inventories = w.cache.inventories)
    (hsnapshots : w'.store.snapshots = w.store.snapshots)
    (hsummaries : w'.store.summaries = w.store.summaries)
    (hmark : w'.store.syncedAt e .delegators = w.store.syncedAt e .delegators) : Primed e w' := by
  refine ⟨⟨hsnapshots ▸ h.filed.distinct, hsnapshots ▸ h.filed.own⟩, ?_, ?_,
    hmark.trans h.unmarked⟩
  · unfold Tallied
    rw [hsummaries]
    exact h.tallied
  · unfold Store.snapshotsOf
    rw [hcache, hsnapshots]
    exact h.aims

theorem Primed.passes (h : Primed e w) (hpasses : w.Passes w') : Primed e w' :=
  h.congr hpasses.inventories (hpasses.data.eq fun s => s.snapshots)
    (hpasses.data.eq fun s => s.summaries) (hpasses.data.eq fun s => s.syncedAt e .delegators)

omit [LedgerService L] in
theorem Primed.markStep (h : Primed e w) {step : EpochStep} {now : Timestamp}
    (hstep : .delegators ≠ step) (hstore : w'.store = w.store.markStep e step now)
    (hcache : w'.cache.inventories = w.cache.inventories) : Primed e w' := by
  apply h.congr hcache
  · rw [hstore]
    rfl
  · rw [hstore]
    rfl
  · rw [hstore, Store.markStep_syncedAt, if_neg fun hsame => hstep hsame.2]

end World

open World (Primed SumsUp)

namespace Run

variable {L : Type} [LedgerService L] {e : Epoch} {c : Settings} {p : EpochCheckpoint}
  {w w' w₀ : World L}

theorem fetchInventory_returns (c : Settings) (e : Epoch) :
    Returns (fun rows => ∃ f : FetchedDelegates, rows = f.inventory e)
      (fetchInventory c e : Run L (List DelegateSnapshot)) :=
  Returns.bind fun f => Returns.pure ⟨f, rfl⟩

/-- An inventory is the one that is remembered, or the stored one, or a fetched one where none is
stored. -/
theorem inventory_comes {rows : List DelegateSnapshot} (h : inventory c e w = (.ok rows, w')) :
    w.cache.inventories.get? e = some rows ∨ rows = w.store.snapshotsOf e ∨
      w.store.snapshotsOf e = [] ∧ ∃ f : FetchedDelegates, rows = f.inventory e := by
  unfold inventory at h
  rw [get_bind_apply] at h
  rcases hcache : w.cache.inventories.get? e with _ | remembered <;> rw [hcache] at h
  · right
    obtain ⟨stored, v, hread, hrest⟩ := exists_of_bind_ok h
    obtain rfl : stored = w.store.snapshotsOf e := (call_of_ok (fun _ => rfl) hread).1
    dsimp only at hrest
    split at hrest
    · next hempty =>
      obtain ⟨rows', v', hfetch, hend⟩ := exists_of_bind_ok hrest
      obtain ⟨_, _, hremember, hlast⟩ := exists_of_bind_ok hend
      cases hremember
      cases hlast
      exact .inr ⟨List.isEmpty_iff.mp hempty, fetchInventory_returns c e _ _ _ hfetch⟩
    · obtain ⟨rows', v', hfetch, hend⟩ := exists_of_bind_ok hrest
      obtain ⟨_, _, hremember, hlast⟩ := exists_of_bind_ok hend
      cases hfetch
      cases hremember
      cases hlast
      exact .inl rfl
  · cases h
    exact .inl rfl

theorem inventory_aims (hw : w.Primed e) {rows : List DelegateSnapshot}
    (h : inventory c e w = (.ok rows, w')) : Aims rows (w.store.snapshotsOf e) := by
  rcases inventory_comes h with hremembered | rfl | ⟨hempty, f, rfl⟩
  · exact hw.aims rows hremembered
  · exact .stored hw.filed e
  · exact hempty ▸ .fetched f e

theorem call_ends {k : StoreCall} {effect : Store → k.Result × Store} {P : World L → Prop}
    {Q : World L → Prop} (hk : ∀ s : Store, s.perform k = .ok (effect s))
    (h : ∀ w w', P w → w'.store = (effect w.store).2 → w.Sends [] w' →
      w'.cache.inventories = w.cache.inventories → Q w') :
    Triple P (call k) (fun _ => Q) fun _ => True := by
  intro w hw
  have hworld : (call k w).2 = (w.call k).2 := call_world k w
  rcases hr : call k w with ⟨halt | r, v⟩ <;> rw [hr] at hworld
  · trivial
  · obtain rfl : v = (w.call k).2 := hworld
    exact h w _ hw (call_of_ok hk hr).2 (.call w k)
      (congrArg JobCache.inventories (w.call_frame k).2.1)

theorem aimInventory (c : Settings) (hw : w₀.Primed e) :
    Triple (fun w => w = w₀) (inventory c e)
      (fun rows w => Aims rows (w.store.snapshotsOf e) ∧ w.store.Tallied ∧ Quiet e w₀ w)
      fun _ => True := by
  rintro w rfl
  have hquiet : Quiet e w (inventory c e w).2 := quietInventory c e w
  have hdata := (Reads.inventory c e w).data
  rcases hr : inventory c e w with ⟨halt | rows, v⟩ <;> rw [hr] at hquiet hdata
  · trivial
  · have hrows : v.store.snapshotsOf e = w.store.snapshotsOf e :=
      hdata.eq fun s => s.snapshotsOf e
    exact ⟨hrows ▸ inventory_aims hw hr, hw.tallied.sameData hdata, hquiet⟩

theorem sumUpWork (c : Settings) (hw : w₀.Primed e) :
    Triple (fun w => w = w₀) (stepWork c e .delegators : Run L Nat)
      (fun _ w => SumsUp e w₀ w) fun _ => True := by
  apply Triple.bind (aimInventory c hw)
  intro rows
  apply Triple.naming
  rintro w₁ ⟨haims, htallied, hquiet⟩
  have hlookup : Triple (fun w => w = w₁)
      (Lookup.run c c.epochConcurrency (some e) (Inventory.targets rows))
      (fun found w => ((found.map fun x => x.delegate).Perm (Inventory.targets rows) ∧
        ∃ qs, w₁.Sends qs w ∧ Found.Returned (some e) w₁.ledger qs found) ∧ w₁.Reads w)
      fun _ => True := by
    have hreads : Reads (Lookup.run c c.epochConcurrency (some e) (Inventory.targets rows) :
        Run L (List Found)) := (Passes.lookup c _ _ _).reads
    exact ((lookup_returned c _ haims.distinct w₁).and (hreads.relates w₁)).mono
      (fun _ => id) (fun _ _ => id) fun _ _ => trivial
  apply Triple.bind hlookup
  intro found
  have hput : Triple (fun w => ((found.map fun x => x.delegate).Perm (Inventory.targets rows) ∧
        ∃ qs, w₁.Sends qs w ∧ Found.Returned (some e) w₁.ledger qs found) ∧ w₁.Reads w)
      (call (.putSummaries ((Found.successes found).map fun x => .ofDelegators e x.1 x.2)))
      (fun _ w => Found.failures found = [] → SumsUp e w₀ w) fun _ => True := by
    apply call_ends fun _ => rfl
    rintro w v ⟨⟨hfound, qs, hsends, hreturned⟩, hreads⟩ hstore hsent - hnone
    have hrows : w.store.snapshotsOf e = w₁.store.snapshotsOf e :=
      hreads.data.eq fun s => s.snapshotsOf e
    refine hquiet.sumsUp ⟨qs, List.append_nil qs ▸ hsends.trans hsent, ?_⟩
    rw [hstore]
    apply Store.SummedUp.put (htallied.sameData hreads.data) hfound hreturned hnone
    rw [hrows]
    exact haims.all
  apply Triple.bind hput
  intro _
  dsimp only
  split
  · exact Triple.bind (Triple.throw fun _ _ => trivial) fun _ => Triple.pure fun _ hw => hw
  · next hfailed =>
    exact Triple.pure fun w hw => hw (List.length_eq_zero_iff.mp (not_not.mp hfailed))

theorem sumUpStep (c : Settings) (p : EpochCheckpoint) (hw : w₀.Primed e) :
    Triple (fun w => w = w₀) (runStep c e p .delegators)
      (fun _ w => (w.store.syncedAt e .delegators).isSome → SumsUp e w₀ w) fun _ => True := by
  unfold runStep
  split
  · apply Triple.bind (sumUpWork c hw)
    intro written
    apply Triple.getBind
    intro v
    have hmark : Triple (fun w => w = v ∧ SumsUp e w₀ w) (call (.markStep e .delegators v.now))
        (fun _ => SumsUp e w₀) fun _ => True := by
      apply call_ends fun _ => rfl
      rintro w w' ⟨-, hsummed⟩ hstore hsent -
      exact hsummed.quiet hsent.quiet (hstore ▸ rfl) (hstore ▸ rfl)
    apply Triple.bind hmark
    exact fun _ => Triple.pure fun w hsummed _ => hsummed
  · refine Triple.pure fun w hsame hmarked => ?_
    rw [hsame, hw.unmarked] at hmarked
    cases hmarked

theorem quietRunStep (c : Settings) (p : EpochCheckpoint) {step : EpochStep}
    (hstep : step ≠ .delegators) : Shifts (Quiet e) (runStep c e p step : Run L _) := by
  have hmark (now : Timestamp) : Shifts (Quiet e) (call (.markStep e step now) : Run L Unit) := by
    intro w
    rw [call_world]
    exact (World.Sends.call w _).quiet
  unfold runStep
  split
  · exact Shifts.bind (quietStep c hstep) fun _ => Shifts.getBind fun w =>
      Shifts.bind (hmark w.now) fun _ => Shifts.pure _
  · exact Shifts.pure _

/-- An epoch whose inventory is not remembered; it has no rows if they are to be put first. -/
structure Fresh (c : Settings) (p : EpochCheckpoint) (e : Epoch) (w : World L) : Prop where
  filed : w.store.Filed
  tallied : w.store.Tallied
  unmarked : w.store.syncedAt e .delegators = none
  forgotten : w.cache.inventories.get? e = none
  empty : c.wants p .dreps → w.store.snapshotsOf e = []

theorem Fresh.passes (h : Fresh c p e w) (hpasses : w.Passes w') : Fresh c p e w' := by
  have hrows : w'.store.snapshotsOf e = w.store.snapshotsOf e :=
    hpasses.data.eq fun s => s.snapshotsOf e
  have hmark : w'.store.syncedAt e .delegators = w.store.syncedAt e .delegators :=
    hpasses.data.eq fun s => s.syncedAt e .delegators
  have hsnapshots : w'.store.snapshots = w.store.snapshots := hpasses.data.eq fun s => s.snapshots
  exact ⟨⟨hsnapshots ▸ h.filed.distinct, hsnapshots ▸ h.filed.own⟩, h.tallied.sameData hpasses.data,
    hmark.trans h.unmarked, hpasses.inventories ▸ h.forgotten, hrows ▸ h.empty⟩

theorem primedMark {step : EpochStep} (hstep : .delegators ≠ step) (now : Timestamp) :
    Triple (World.Primed e) (call (.markStep e step now) : Run L Unit) (fun _ w => w.Primed e)
      fun _ => True :=
  call_ends (fun _ => rfl) fun _ _ hw hstore _ hcache => hw.markStep hstep hstore hcache

theorem freshFetch (c : Settings) (p : EpochCheckpoint) :
    Triple (Fresh c p e) (fetchInventory c e : Run L (List DelegateSnapshot))
      (fun rows w => (∃ f : FetchedDelegates, rows = f.inventory e) ∧ Fresh c p e w)
      fun _ => True := by
  intro w hw
  have hpasses := Passes.fetchInventory c e w
  rcases hr : fetchInventory c e w with ⟨halt | rows, v⟩ <;> rw [hr] at hpasses
  · trivial
  · exact ⟨fetchInventory_returns c e w rows v hr, hw.passes hpasses⟩

theorem primeDelegates {p : EpochCheckpoint} (hwants : c.wants p .dreps) :
    Triple (Fresh c p e) (stepWork c e .dreps : Run L Nat) (fun _ w => w.Primed e)
      fun _ => True := by
  apply Triple.bind (freshFetch c p)
  intro rows
  apply Triple.assuming
  rintro ⟨f, rfl⟩
  have hput : Triple (Fresh c p e) (call (.putSnapshots (f.inventory e)) : Run L Unit)
      (fun _ w => w.store.Filed ∧ w.store.Tallied ∧ w.store.syncedAt e .delegators = none ∧
        Aims (f.inventory e) (w.store.snapshotsOf e)) fun _ => True := by
    apply call_ends fun _ => rfl
    rintro w w' hw hstore - -
    rw [hstore]
    exact ⟨hw.filed.putSnapshots _, hw.tallied, hw.unmarked, .put hw.filed (hw.empty hwants) f⟩
  apply Triple.bind hput
  rintro _ w ⟨hfiled, htallied, hunmarked, haims⟩
  refine ⟨hfiled, htallied, fun rows hrows => ?_, hunmarked⟩
  obtain rfl : f.inventory e = rows := by
    have hget := Table.get?_insert w.cache.inventories e e (f.inventory e)
    rw [if_pos rfl] at hget
    exact Option.some.inj (hget.symm.trans hrows)
  exact haims

/-- Behind the first step an epoch is ready for the last one, whether the step was to be run or
not. -/
theorem primeFirst (c : Settings) (p : EpochCheckpoint) :
    Triple (Fresh c p e) (runStep c e p .dreps : Run L _) (fun _ w => w.Primed e)
      fun _ => True := by
  unfold runStep
  split
  · next hwants =>
    apply Triple.bind (primeDelegates hwants)
    intro written
    apply Triple.getBind
    intro v
    apply Triple.bind ((primedMark (by decide) v.now).pre fun w hw => hw.2)
    exact fun _ => Triple.pure fun _ => id
  · refine Triple.pure fun w hw => ⟨hw.filed, hw.tallied, fun rows hrows => ?_, hw.unmarked⟩
    cases hw.forgotten.symm.trans hrows

theorem primeSecond (c : Settings) (p : EpochCheckpoint) :
    Triple (World.Primed e) (runStep c e p .totals : Run L _) (fun _ w => w.Primed e)
      fun _ => True := by
  have hpass {α : Type} {m : Run L α} (h : Passes m) :
      Triple (World.Primed e) m (fun _ w => w.Primed e) fun _ => True :=
    (h.triple fun _ _ hpasses hw => hw.passes hpasses).mono (fun _ => id) (fun _ _ => id)
      fun _ _ => trivial
  have hput (row : EpochTotals) : Triple (World.Primed e) (call (.putTotals row) : Run L Unit)
      (fun _ w => w.Primed e) fun _ => True := by
    apply call_ends fun _ => rfl
    intro w w' hw hstore _ hcache
    exact hw.congr hcache (hstore ▸ rfl) (hstore ▸ rfl) (hstore ▸ rfl)
  have hwork : Triple (World.Primed e) (stepWork c e .totals : Run L Nat)
      (fun _ w => w.Primed e) fun _ => True := by
    refine Triple.bind ?_ fun _ => Triple.pure fun _ => id
    apply Triple.bind (hpass (Passes.request c (.supplyTotals e)))
    intro supply
    apply Triple.bind (hpass (Passes.request c (.delegationTotal e)))
    intro delegated
    apply Triple.bind (hpass (Passes.listing c (.poolPower e)))
    exact fun pools => hput _
  unfold runStep
  split
  · apply Triple.bind hwork
    intro written
    apply Triple.getBind
    intro v
    apply Triple.bind ((primedMark (by decide) v.now).pre fun w hw => hw.2)
    exact fun _ => Triple.pure fun _ => id
  · exact Triple.pure fun _ => id

theorem syncEpoch_halt_unmarked {halt : Halt} (h : syncEpoch c e w = (.error halt, w')) :
    w'.store.syncedAt e .delegators = w.store.syncedAt e .delegators := by
  rcases exists_haltsIn h with hread | ⟨step, hhalts⟩
  · have hdata := Reads.checkpoint e w
    rw [hread] at hdata
    exact hdata.data.eq fun s => s.syncedAt e .delegators
  · obtain ⟨_, v, hsync, hsame⟩ := hhalts.sameFrom
    obtain rfl : v = w' := congrArg Prod.snd (hsync.symm.trans h)
    exact hsame.marks .delegators (by cases step <;> decide)

/-- Steps that run from a fresh epoch on mark the last one only if they summed the epoch up. -/
theorem sumUpSteps (c : Settings) (p : EpochCheckpoint) (w₀ : World L) :
    Triple (fun w => Fresh c p e w ∧ Quiet e w₀ w) (runSteps c e p EpochStep.all)
      (fun _ w => (w.store.syncedAt e .delegators).isSome → SumsUp e w₀ w) fun _ => True := by
  have hquietly {step : EpochStep} (hstep : step ≠ .delegators) {P Q : World L → Prop}
      (h : Triple P (runStep c e p step) (fun _ => Q) fun _ => True) :
      Triple (fun w => P w ∧ Quiet e w₀ w) (runStep c e p step)
        (fun _ w => Q w ∧ Quiet e w₀ w) fun _ => True := by
    have hquiet := (quietRunStep (e := e) c p hstep).triple (P := Quiet e w₀)
      fun _ _ h hw => trans_of (Quiet e) hw h
    have hboth := (h.pre fun w (hw : P w ∧ Quiet e w₀ w) => hw.1).and (hquiet.pre fun _ hw => hw.2)
    exact hboth.mono (fun _ => id) (fun _ _ => id) fun _ _ => trivial
  -- What the steps before it were returned is not of the delegators, so it counts for nothing.
  have hlast : Triple (fun w => w.Primed e ∧ Quiet e w₀ w) (runStep c e p .delegators)
      (fun _ w => (w.store.syncedAt e .delegators).isSome → SumsUp e w₀ w) fun _ => True := by
    apply Triple.naming
    rintro w ⟨hprimed, hquiet⟩
    exact (sumUpStep c p hprimed).post fun _ _ hsums hmarked => hquiet.sumsUp (hsums hmarked)
  apply Triple.bind (hquietly (by decide) (primeFirst c p))
  intro first
  refine Triple.bind ?_ fun _ => Triple.pure fun _ => id
  apply Triple.bind (hquietly (by decide) (primeSecond c p))
  intro second
  refine Triple.bind ?_ fun _ => Triple.pure fun _ => id
  apply Triple.bind hlast
  intro third
  exact Triple.bind (Triple.pure fun _ => id) fun _ => Triple.pure fun _ => id

/-- A sync of an epoch of a charted store that marks the last step summed the epoch up, unless the
step was marked before or an inventory was remembered. -/
theorem sumUpEpoch (c : Settings) (hcharted : w.store.Charted) (htallied : w.store.Tallied)
    (hforgotten : w.cache.inventories.get? e = none)
    (hunmarked : w.store.syncedAt e .delegators = none)
    (hmarked : ((syncEpoch c e w).2.store.syncedAt e .delegators).isSome) :
    SumsUp e w (syncEpoch c e w).2 := by
  rcases hr : syncEpoch c e w with ⟨halt | report, w'⟩ <;> rw [hr] at hmarked
  · rw [syncEpoch_halt_unmarked hr, hunmarked] at hmarked
    cases hmarked
  unfold syncEpoch at hr
  obtain ⟨p, v, hcheckpoint, hrest⟩ := exists_of_bind_ok hr
  have hfresh : Fresh c p e v ∧ Quiet e w v := by
    rcases checkpoint_cases e w with ⟨p', hread, hp⟩ | ⟨halt, hread⟩
    · obtain ⟨hsame, rfl⟩ := Prod.mk.inj (hread.symm.trans hcheckpoint)
      obtain rfl := Except.ok.inj hsame
      have hstore : (w.call (.checkpoint e)).2.store = w.store := World.call_store rfl w
      refine ⟨⟨hstore ▸ hcharted.filed, hstore ▸ htallied, hstore ▸ hunmarked, ?_,
        fun hwants => ?_⟩, (World.Sends.call w _).quiet⟩
      · exact (w.call_frame _).2.1 ▸ hforgotten
      · rw [hstore]
        apply hcharted.unmarked
        have hdone : p'.isDone .dreps = false := by simpa [Settings.wants] using hwants
        rw [hp] at hdone
        exact Option.isNone_iff_eq_none.mp (Option.isSome_eq_false_iff.mp hdone)
    · cases hread.symm.trans hcheckpoint
  obtain ⟨ran, v', hsteps, hend⟩ := exists_of_bind_ok hrest
  cases hend
  exact (sumUpSteps c p w).ok hfresh hsteps hmarked

end Run

end GovernanceIndex
