import GovernanceIndex.Ledger.Simulated
import GovernanceIndex.Proofs.Sync.EpochRegime
import GovernanceIndex.Proofs.Sync.EpochRuns

/-!
What a sync of an epoch leaves of its inventory. The inventory that was fetched goes over the rows
that the store has: rows of its delegates are replaced, and rows that an earlier attempt stored for
other delegates stay.
-/
namespace GovernanceIndex

namespace Store

/-- Every row of an inventory is stored once, under its own epoch and delegate. -/
structure Filed (s : Store) : Prop where
  distinct : s.snapshots.keys.Nodup
  own : ∀ k r, s.snapshots.get? k = some r → k = (r.epoch, r.delegate)

variable {s s' : Store} {epoch : Epoch} {rows : List DelegateSnapshot} {r : DelegateSnapshot}

theorem putSnapshots_get? (s : Store) (rows : List DelegateSnapshot) (k : Epoch × DelegateId) :
    (s.putSnapshots rows).snapshots.get? k =
      (rows.filter fun r => (r.epoch, r.delegate) = k).getLast?.or (s.snapshots.get? k) :=
  Table.get?_foldl_insert_by _ rows s.snapshots k

theorem Filed.putSnapshots (h : s.Filed) (rows : List DelegateSnapshot) :
    (s.putSnapshots rows).Filed := by
  have hkeyed : s.snapshots.KeyedBy fun r => (r.epoch, r.delegate) := ⟨h.distinct, h.own⟩
  have hput := hkeyed.foldl_insert rows
  exact ⟨hput.distinct, hput.own⟩

theorem snapshots_of_perform {c : StoreCall} {a : c.Result} (h : s.perform c = .ok (a, s')) :
    s'.snapshots = s.snapshots ∨ ∃ rows, s' = s.putSnapshots rows := by
  cases c with
  | putSnapshots rows =>
    cases h
    exact .inr ⟨rows, rfl⟩
  | acquireLease => exact .inl ((acquireLease_sameData h).eq fun s => s.snapshots)
  | releaseLease => exact .inl ((releaseLease_sameData h).eq fun s => s.snapshots)
  | renewLease => exact .inl ((renewLease_sameData h).eq fun s => s.snapshots)
  | _ =>
    cases h
    exact .inl rfl

theorem Filed.perform {c : StoreCall} {a : c.Result} (hc : s.perform c = .ok (a, s'))
    (h : s.Filed) : s'.Filed := by
  rcases snapshots_of_perform hc with hsame | ⟨rows, rfl⟩
  · exact ⟨hsame ▸ h.distinct, hsame ▸ h.own⟩
  · exact h.putSnapshots rows

theorem Reaches.filed (h : Reaches {} s) : s.Filed :=
  h.keeps Filed.perform ⟨List.nodup_nil, fun _ _ hr => by cases hr⟩

theorem Filed.mem_snapshotsOf (h : s.Filed) :
    r ∈ s.snapshotsOf epoch ↔ s.snapshots.get? (epoch, r.delegate) = some r := by
  unfold snapshotsOf ofEpoch
  simp only [List.mem_map, List.mem_mergeSort, List.mem_filter, decide_eq_true_eq]
  constructor
  · rintro ⟨⟨k, r⟩, ⟨hmem, rfl⟩, rfl⟩
    have hget := Table.get?_of_mem_entries h.distinct hmem
    have hk := h.own k r hget
    dsimp only
    rw [show k.1 = r.epoch from congrArg Prod.fst hk, ← hk]
    exact hget
  · intro hget
    exact ⟨((epoch, r.delegate), r), ⟨Table.mem_entries_of_get? hget, rfl⟩, rfl⟩

theorem Filed.snapshotsOf_nodup (h : s.Filed) (epoch : Epoch) :
    ((s.snapshotsOf epoch).map fun r => r.delegate).Nodup := by
  have hkeys : (s.snapshots.entries.filter fun e => e.1.1 = epoch).map Prod.fst =
      ((s.snapshots.entries.filter fun e => e.1.1 = epoch).map fun e => e.2.delegate).map
        fun d => (epoch, d) := by
    rw [List.map_map]
    apply List.map_congr_left
    rintro ⟨k, r⟩ he
    obtain ⟨hmem, hk⟩ := List.mem_filter.mp he
    obtain rfl := h.own k r (Table.get?_of_mem_entries h.distinct hmem)
    obtain rfl : r.epoch = epoch := of_decide_eq_true hk
    rfl
  have hdistinct : ((s.snapshots.entries.filter fun e => e.1.1 = epoch).map Prod.fst).Nodup :=
    (List.filter_sublist.map Prod.fst).nodup h.distinct
  rw [hkeys] at hdistinct
  unfold snapshotsOf ofEpoch
  rw [List.map_map]
  exact (((List.mergeSort_perm _ _).map _).nodup_iff).mpr hdistinct.of_map

theorem Filed.mem_putSnapshots (h : s.Filed) :
    r ∈ (s.putSnapshots rows).snapshotsOf epoch ↔
      (rows.filter fun x => (x.epoch, x.delegate) = (epoch, r.delegate)).getLast?.or
        (s.snapshots.get? (epoch, r.delegate)) = some r := by
  rw [(h.putSnapshots rows).mem_snapshotsOf, putSnapshots_get?]

/-- Rows of delegates for which no row is put in stay, and none comes to them. -/
theorem Filed.mem_putSnapshots_of_not_mem (h : s.Filed)
    (hr : r.delegate ∉ rows.map fun x => x.delegate) :
    r ∈ (s.putSnapshots rows).snapshotsOf epoch ↔ r ∈ s.snapshotsOf epoch := by
  have hnone : (rows.filter fun x => (x.epoch, x.delegate) = (epoch, r.delegate)) = [] := by
    rw [List.filter_eq_nil_iff]
    intro x hx hkey
    exact hr (List.mem_map.mpr ⟨x, hx, congrArg Prod.snd (of_decide_eq_true hkey)⟩)
  rw [h.mem_putSnapshots, hnone, h.mem_snapshotsOf]
  rfl

theorem Filed.exists_mem_putSnapshots (h : s.Filed) (hrows : ∀ x ∈ rows, x.epoch = epoch)
    {d : DelegateId} (hd : d ∈ rows.map fun x => x.delegate) :
    ∃ x ∈ rows, x.delegate = d ∧
      ∀ r, r.delegate = d → (r ∈ (s.putSnapshots rows).snapshotsOf epoch ↔ r = x) := by
  obtain ⟨y, hy, hyd⟩ := List.mem_map.mp hd
  have hmem : y ∈ rows.filter fun x => (x.epoch, x.delegate) = (epoch, d) :=
    List.mem_filter.mpr ⟨hy, decide_eq_true (by rw [hrows y hy, hyd])⟩
  rcases hlast : (rows.filter fun x => (x.epoch, x.delegate) = (epoch, d)).getLast? with _ | x
  · rw [List.getLast?_eq_none_iff.mp hlast] at hmem
    cases hmem
  · obtain ⟨hx, hkey⟩ := List.mem_filter.mp (List.mem_of_getLast? hlast)
    refine ⟨x, hx, congrArg Prod.snd (of_decide_eq_true hkey), fun r hr => ?_⟩
    rw [h.mem_putSnapshots, hr, hlast, Option.some_or, Option.some_inj]
    exact eq_comm

theorem Filed.mem_delegates_putSnapshots (h : s.Filed) (hrows : ∀ x ∈ rows, x.epoch = epoch)
    {d : DelegateId} :
    d ∈ ((s.putSnapshots rows).snapshotsOf epoch).map (fun r => r.delegate) ↔
      d ∈ rows.map (fun x => x.delegate) ∨ d ∈ (s.snapshotsOf epoch).map fun r => r.delegate := by
  by_cases hd : d ∈ rows.map fun x => x.delegate
  · obtain ⟨x, -, hx, hiff⟩ := h.exists_mem_putSnapshots hrows hd
    simp only [hd, true_or, iff_true]
    exact List.mem_map.mpr ⟨x, (hiff x hx).mpr rfl, hx⟩
  · simp only [hd, false_or, List.mem_map]
    constructor
    · rintro ⟨r, hr, rfl⟩
      exact ⟨r, (h.mem_putSnapshots_of_not_mem hd).mp hr, rfl⟩
    · rintro ⟨r, hr, rfl⟩
      exact ⟨r, (h.mem_putSnapshots_of_not_mem hd).mpr hr, rfl⟩

end Store

open Store (SameData Works DifferIn Reaches)

namespace Run

variable {L : Type} [LedgerService L] {epoch : Epoch}

/-- What a sync of an epoch fetches of the delegates if it comes to that. -/
def fetchedBySync (c : Settings) (epoch : Epoch) (w : World L) : Option FetchedDelegates :=
  ((checkpoint epoch >>= fun _ => fetchDelegates c epoch : Run L FetchedDelegates) w).1.toOption

/-- The rows of the epoch are those from before with the inventory that was fetched put over them. -/
def Overlaid (c : Settings) (epoch : Epoch) (w₀ : World L) (s : Store) : Prop :=
  ∃ f, fetchedBySync c epoch w₀ = some f ∧
    s.snapshotsOf epoch = (w₀.store.putSnapshots (f.inventory epoch)).snapshotsOf epoch

/-- Behind a sync of an epoch, the first step is marked just as before or has put its rows. -/
def InventoryPut (c : Settings) (epoch : Epoch) (w₀ : World L) (s : Store) : Prop :=
  s.syncedAt epoch .dreps = w₀.store.syncedAt epoch .dreps ∨ Overlaid c epoch w₀ s

section

variable {c : Settings} {p : EpochCheckpoint} {w₀ w₁ : World L} {s s' : Store}

theorem InventoryPut.of_sameData (h : w₀.store.SameData s) : InventoryPut c epoch w₀ s :=
  .inl (h.eq fun s => s.syncedAt epoch .dreps)

theorem InventoryPut.differIn (h : InventoryPut c epoch w₀ s)
    (hs : DifferIn (fun e q => e = epoch ∧ q ∈ [.totals, .delegators]) s s') :
    InventoryPut c epoch w₀ s' := by
  obtain ⟨hmark, hrows⟩ := hs epoch .dreps (by simp)
  have hsame : s'.snapshotsOf epoch = s.snapshotsOf epoch := StepRows.delegates.inj hrows
  unfold InventoryPut Overlaid
  rw [hmark, hsame]
  exact h

variable (hread : checkpoint epoch w₀ = (.ok p, w₁)) (hsame : w₀.store.SameData w₁.store)
include hread hsame

/-- The inventory is made of what is fetched in the world that the checkpoint was read in. -/
theorem fetchInventory_fetched :
    Triple (fun w => w = w₁) (fetchInventory c epoch)
      (fun rows w => ∃ f, fetchedBySync c epoch w₀ = some f ∧ rows = f.inventory epoch ∧
        w₀.store.SameData w.store)
      (fun w => InventoryPut c epoch w₀ w.store) := by
  have hreads := ((Passes.fetchDelegates c epoch).reads.relates w₁).ran
  apply Triple.bind (hreads.mono (fun _ => id) (fun _ _ => id) fun w hw =>
    .of_sameData (trans_of SameData hsame hw.data))
  intro f
  refine Triple.pure fun w hw => ⟨f, ?_, rfl, trans_of SameData hsame hw.2.data⟩
  unfold fetchedBySync
  rw [bind_apply_of_ok hread, hw.1]
  rfl

theorem syncDelegates_overlaid :
    Triple (fun w => w = w₁) (syncDelegates c epoch) (fun _ w => Overlaid c epoch w₀ w.store)
      (fun w => InventoryPut c epoch w₀ w.store) := by
  apply Triple.bind (fetchInventory_fetched hread hsame)
  intro rows
  apply Triple.naming
  rintro w₂ ⟨f, hf, rfl, hdata⟩
  have hput : Ensures (fun s => s = w₂.store)
      (call (.putSnapshots (f.inventory epoch)) : Run L Unit)
      (fun _ => Overlaid c epoch w₀) (InventoryPut c epoch w₀) := by
    apply Ensures.callTo fun _ => rfl
    · rintro s rfl
      exact ⟨f, hf, hdata.eq fun s => (s.putSnapshots (f.inventory epoch)).snapshotsOf epoch⟩
    · rintro s rfl
      exact .of_sameData hdata
  have hremember : Ensures (Overlaid c epoch w₀)
      (rememberInventory epoch (f.inventory epoch) : Run L Unit)
      (fun _ => Overlaid c epoch w₀) (Overlaid c epoch w₀) := by
    apply (Reads.rememberInventory epoch _).ensures
    rintro s s' hs ⟨f', hf', hrows⟩
    exact ⟨f', hf', (hs.eq fun s => s.snapshotsOf epoch).trans hrows⟩
  apply Triple.bind (Triple.pre hput fun w hw => congrArg World.store hw)
  intro _
  apply Triple.bind (Triple.mono hremember (fun _ => id) (fun _ _ => id) fun _ => .inr)
  exact fun _ => Triple.pure fun _ => id

theorem runDelegates_triple :
    Triple (fun w => w = w₁) (runStep c epoch p .dreps)
      (fun _ w => InventoryPut c epoch w₀ w.store) (fun w => InventoryPut c epoch w₀ w.store) := by
  unfold runStep
  split
  · apply Triple.bind (syncDelegates_overlaid hread hsame)
    intro rows
    apply Triple.getBind
    intro w
    have hmark : Ensures (Overlaid c epoch w₀) (call (.markStep epoch .dreps w.now) : Run L Unit)
        (fun _ => InventoryPut c epoch w₀) (InventoryPut c epoch w₀) :=
      Ensures.callTo (fun _ => rfl) (fun s hs => .inr hs) fun s hs => .inr hs
    apply Triple.bind (Triple.pre hmark fun _ hw => hw.2)
    exact fun _ => Triple.pure fun _ => id
  · exact Triple.pure fun w hw => hw ▸ .of_sameData hsame

end

theorem syncEpoch_triple (c : Settings) (epoch : Epoch) (w₀ : World L) :
    Triple (fun w => w = w₀) (syncEpoch c epoch) (fun _ w => InventoryPut c epoch w₀ w.store)
      (fun w => InventoryPut c epoch w₀ w.store) := by
  have hread := ((Reads.checkpoint epoch).relates w₀).ran
  apply Triple.bind (hread.mono (fun _ => id) (fun _ _ => id) fun w hw => .of_sameData hw.data)
  intro p
  apply Triple.naming
  rintro w₁ ⟨hp, hreads⟩
  have hrest : Ensures (InventoryPut c epoch w₀)
      (runSteps c epoch p [.totals, .delegators] : Run L (List (EpochStep × Nat)))
      (fun _ => InventoryPut c epoch w₀) (InventoryPut c epoch w₀) :=
    (runSteps_differIn c epoch p _).ensures fun _ _ hs h => h.differIn hs
  refine Triple.bind (Q := fun _ w => InventoryPut c epoch w₀ w.store) ?_
    fun _ => Triple.pure fun _ => id
  apply Triple.bind (runDelegates_triple hp hreads.data)
  intro first
  exact Triple.bind hrest fun _ => Triple.pure fun _ => id

/-- A sync of an epoch that marks the first step has put its rows. -/
theorem syncEpoch_overlaid {c : Settings} {w : World L}
    (hbefore : w.store.syncedAt epoch .dreps = none)
    (hafter : ((syncEpoch c epoch w).2.store.syncedAt epoch .dreps).isSome) :
    Overlaid c epoch w (syncEpoch c epoch w).2.store := by
  rcases (syncEpoch_triple c epoch w).final rfl with hmark | hput
  · rw [hmark, hbefore] at hafter
    cases hafter
  · exact hput

/-- Everything may be requested, and the store is changed by calls. -/
def reachRegime (s₀ : Store) : Regime L where
  permits _ := True
  answers _ _ := True
  holds w := s₀.Reaches w.store
  halts _ := True
  ask _ _ _ hw := ⟨hw, by split <;> trivial⟩
  read w k _ hw := ⟨trans_of Reaches hw (w.call_reaches k), fun _ _ => trivial⟩
  renew w _ _ hw := trans_of Reaches hw (w.call_reaches _)
  tick _ _ _ hw := hw
  late _ _ _ := trivial
  tip _ e _ _ := ⟨⟨e, none, none⟩, trivial, rfl⟩
  remember _ _ _ hw := hw

theorem reachRegime_grants (s₀ : Store) (epoch : Epoch) (step : EpochStep) :
    (reachRegime s₀ : Regime L).Grants epoch step where
  own _ _ _ _ _ := trivial
  inventory _ _ _ _ _ _ _ _ _ := trivial
  write k _ := by
    apply Regime.call
    intro w hw
    refine ⟨trans_of Reaches hw (w.call_reaches k), ?_⟩
    split <;> trivial
  remember _ _ hw := hw
  incomplete _ _ _ _ := trivial

theorem syncEpoch_reaches (c : Settings) (epoch : Epoch) :
    Moves Reaches (syncEpoch c epoch : Run L EpochReport) := fun w =>
  (Regime.syncEpoch (reachRegime_grants w.store epoch) c w (refl_of Reaches w.store)).1

end Run

/-- What a call for epochs leaves comes out of what it found by calls. -/
theorem EpochCall.run_reaches {L : Type} [LedgerService L] (k : EpochCall L) (s : Store) :
    s.Reaches (k.run s) := by
  unfold run
  split
  · exact (Run.syncEpoch_reaches _ _).storeAfter _ s
  · exact (Run.Moves.bind (Run.Reads.planEpochs _).reaches fun r => Run.syncEach_moves _ r.1 r.2
      fun e _ => Run.syncEpoch_reaches _ e).storeAfter _ s

namespace Run

variable {L : Type} [LedgerService L]

/-- If a sync of an epoch marks the first step, in whatever store calls lead to, then the epoch has
one row for every delegate that was fetched or had a row before. Rows of delegates that were not
fetched are those from before, and the row of a fetched one has the last power reported for it, or
none if there is no such report, unless the delegate is listed again and has reported power. -/
theorem syncEpoch_stores_inventory (c : Settings) (epoch : Epoch) (w : World L)
    (hreached : Reaches {} w.store) (hbefore : w.store.syncedAt epoch .dreps = none)
    (hafter : ((syncEpoch c epoch w).2.store.syncedAt epoch .dreps).isSome) :
    let earlier := w.store.snapshotsOf epoch
    let rows := (syncEpoch c epoch w).2.store.snapshotsOf epoch
    ∃ f, fetchedBySync c epoch w = some f ∧ (rows.map fun r => r.delegate).Nodup ∧
      (∀ d, d ∈ rows.map (fun r => r.delegate) ↔
        d ∈ f.ids ∨ d ∈ earlier.map fun r => r.delegate) ∧
      (∀ r, r.delegate ∉ f.ids → (r ∈ rows ↔ r ∈ earlier)) ∧
      ∀ r ∈ rows, r.delegate ∈ f.ids →
        ((f.listed.countP fun x => x.delegate = r.delegate) ≤ 1 ∨
          r.delegate ∉ f.powers.map fun p => p.delegate) →
        r.votingPower = f.lastPower r.delegate := by
  intro earlier rows
  have hfiled : w.store.Filed := hreached.filed
  obtain ⟨f, hf, hrows⟩ := syncEpoch_overlaid hbefore hafter
  have hrows : rows = (w.store.putSnapshots (f.inventory epoch)).snapshotsOf epoch := hrows
  clear_value rows
  subst hrows
  have hepoch : ∀ x ∈ f.inventory epoch, x.epoch = epoch := Inventory.merge_epoch _ _ _ _
  refine ⟨f, hf, (hfiled.putSnapshots _).snapshotsOf_nodup epoch, fun d => ?_, fun r hr => ?_,
    fun r hr hd hpower => ?_⟩
  · have hids : d ∈ (f.inventory epoch).map (fun x => x.delegate) ↔ d ∈ f.ids :=
      FetchedDelegates.mem_inventory
    rw [← hids]
    exact hfiled.mem_delegates_putSnapshots hepoch
  · exact hfiled.mem_putSnapshots_of_not_mem fun hmem => hr (FetchedDelegates.mem_inventory.mp hmem)
  · obtain ⟨x, hx, -, hiff⟩ :=
      hfiled.exists_mem_putSnapshots hepoch (FetchedDelegates.mem_inventory.mpr hd)
    obtain rfl : r = x := (hiff r rfl).mp hr
    rcases hpower with honce | hpowerless
    · exact FetchedDelegates.inventory_power honce hx rfl
    · rw [FetchedDelegates.inventory_powerless hx hpowerless,
        FetchedDelegates.lastPower_of_not_mem hpowerless]

def unlisted : DelegateId := ⟨"drep1e", by decide⟩

def relisted : DelegateId := ⟨"drep1f", by decide⟩

/-- A sync of an epoch before a service with one delegate, in which calls to the store may fail. -/
def delegateSync (d : DelegateId) (faults : Table StoreMethod (List (Option StoreError))) :
    EpochCall SimulatedLedger where
  task := .one ⟨7⟩
  settings := {}
  world :=
    { ledger :=
        { delegates := ⟨[(d, ⟨d, true, true⟩)]⟩
          delegatePower := ⟨[((⟨7⟩, d), 5)]⟩ }
      worker := { id := ⟨"w3", by decide⟩ }
      now := ⟨5, 0⟩
      faults }

/-- The store behind a sync that stored its inventory and could not mark the step. -/
def unmarkedStore : Store :=
  (delegateSync unlisted ⟨[(.markStep, [some (.storage "")])]⟩).run {}

/-- The world in which a later sync begins. -/
def relistedWorld : World SimulatedLedger := (delegateSync relisted {}).world.withStore unmarkedStore

theorem unmarkedStore_reached : Reaches {} unmarkedStore := EpochCall.run_reaches _ _

/-- The row that the first sync stored stays beside that of the later one. -/
theorem syncEpoch_stores_inventory_relisted :
    let rows := (syncEpoch {} ⟨7⟩ relistedWorld).2.store.snapshotsOf ⟨7⟩
    Reaches {} relistedWorld.store ∧ relistedWorld.store.syncedAt ⟨7⟩ .dreps = none ∧
      ((syncEpoch {} ⟨7⟩ relistedWorld).2.store.syncedAt ⟨7⟩ .dreps).isSome ∧
      (rows.map fun r => r.delegate).Nodup ∧
      (∀ d, d ∈ rows.map (fun r => r.delegate) ↔ d = relisted ∨ d = unlisted) ∧
      ∀ r ∈ rows, r.delegate = relisted → r.votingPower = 5 := by
  intro rows
  have hbefore : relistedWorld.store.syncedAt ⟨7⟩ .dreps = none := by decide +kernel
  have hafter : ((syncEpoch {} ⟨7⟩ relistedWorld).2.store.syncedAt ⟨7⟩ .dreps).isSome := by
    decide +kernel
  have hfetched : fetchedBySync {} ⟨7⟩ relistedWorld =
      some ⟨[⟨relisted, true⟩], [⟨relisted, true, true⟩], [⟨relisted, ⟨7⟩, 5⟩]⟩ := by
    decide +kernel
  have hearlier : (relistedWorld.store.snapshotsOf ⟨7⟩).map (fun r => r.delegate) = [unlisted] := by
    decide +kernel
  obtain ⟨f, hf, hnodup, hids, -, hpower⟩ :=
    syncEpoch_stores_inventory {} ⟨7⟩ relistedWorld unmarkedStore_reached hbefore hafter
  obtain rfl := Option.some.inj (hf.symm.trans hfetched)
  refine ⟨unmarkedStore_reached, hbefore, hafter, hnodup, fun d => ?_, fun r hr hd => ?_⟩
  · rw [hids d, hearlier]
    simp [FetchedDelegates.ids]
  · rw [hpower r hr (by simp [FetchedDelegates.ids, hd]) (.inl (by simp [hd])), hd]
    decide +kernel

/-- A service whose listing grows while it is read: once a page of it was served, other delegates are
listed in front. Of one delegate power is reported. -/
structure ShiftingLedger where
  listed : List DelegateId
  coming : List DelegateId
  powered : DelegateId

namespace ShiftingLedger

def react (s : ShiftingLedger) : (q : Request) → q.Reply × ShiftingLedger
  | .page .delegates p =>
    let rows := s.listed.map fun d => ⟨d, true⟩
    (.ok (SimulatedLedger.window rows p), { s with listed := s.coming ++ s.listed, coming := [] })
  | .page (.delegatePower epoch) p =>
    (.ok (SimulatedLedger.window [⟨s.powered, epoch, 5⟩] p), s)
  | q => (.ok (ScriptedLedger.nothing q), s)

instance : LedgerService ShiftingLedger where
  react := react
  quota _ := none

end ShiftingLedger

/-- The world in which a later sync reads a listing that grows. -/
def shiftingWorld : World ShiftingLedger where
  ledger := { listed := [relisted], coming := [unlisted], powered := relisted }
  store := unmarkedStore
  worker := { id := ⟨"w3", by decide⟩ }
  now := ⟨5, 0⟩

/-- A sync that reads pages of one row finds the delegate on both of them, and the other one, which
has a row from before, on none. Of the rows of the delegate the one without its power is stored. -/
theorem syncEpoch_stores_other_inventory :
    let s := (syncEpoch { pageSize := 1 } ⟨7⟩ shiftingWorld).2.store
    Reaches {} shiftingWorld.store ∧ shiftingWorld.store.syncedAt ⟨7⟩ .dreps = none ∧
      (s.syncedAt ⟨7⟩ .dreps).isSome ∧
      ∃ f, fetchedBySync { pageSize := 1 } ⟨7⟩ shiftingWorld = some f ∧
        f.listed = [⟨relisted, true⟩, ⟨relisted, true⟩] ∧ f.lastPower relisted = 5 ∧
        (¬ ∀ d, d ∈ (s.snapshotsOf ⟨7⟩).map (fun r => r.delegate) ↔ d ∈ f.ids) ∧
        ¬ ∀ r ∈ s.snapshotsOf ⟨7⟩, r.delegate ∈ f.ids →
          r.votingPower = f.lastPower r.delegate := by
  intro s
  have hbefore : shiftingWorld.store.syncedAt ⟨7⟩ .dreps = none := by decide +kernel
  have hafter : (s.syncedAt ⟨7⟩ .dreps).isSome := by decide +kernel
  let f : FetchedDelegates :=
    ⟨[⟨relisted, true⟩, ⟨relisted, true⟩], [], [⟨relisted, ⟨7⟩, 5⟩]⟩
  have hfetched : fetchedBySync { pageSize := 1 } ⟨7⟩ shiftingWorld = some f := by decide +kernel
  have hfiled : shiftingWorld.store.Filed := unmarkedStore_reached.filed
  have hrows : s.snapshotsOf ⟨7⟩ =
      (shiftingWorld.store.putSnapshots (f.inventory ⟨7⟩)).snapshotsOf ⟨7⟩ := by
    obtain ⟨f', hf', hput⟩ := syncEpoch_overlaid hbefore hafter
    obtain rfl := Option.some.inj (hf'.symm.trans hfetched)
    exact hput
  refine ⟨unmarkedStore_reached, hbefore, hafter, f, hfetched, rfl, by decide +kernel, ?_, ?_⟩
  · intro hiff
    have hrow : shiftingWorld.store.snapshots.get? (⟨7⟩, unlisted) =
        some ⟨⟨7⟩, unlisted, true, true, 5⟩ := by decide +kernel
    have hkept : (⟨⟨7⟩, unlisted, true, true, 5⟩ : DelegateSnapshot) ∈ s.snapshotsOf ⟨7⟩ := by
      rw [hrows, hfiled.mem_putSnapshots_of_not_mem, hfiled.mem_snapshotsOf, hrow]
      rw [FetchedDelegates.mem_inventory]
      decide
    have hids := (hiff unlisted).mp (List.mem_map.mpr ⟨_, hkept, rfl⟩)
    revert hids
    decide
  · intro hpower
    -- Of the two rows of the delegate the first one has its power, and the last one is stored.
    have hlast : (⟨⟨7⟩, relisted, true, false, 0⟩ : DelegateSnapshot) ∈ s.snapshotsOf ⟨7⟩ := by
      have hown : (f.inventory ⟨7⟩).filter (fun x => (x.epoch, x.delegate) = (⟨7⟩, relisted)) =
          (f.inventory ⟨7⟩).filter fun x => x.delegate = relisted := by
        apply List.filter_congr
        intro x hx
        have hepoch : x.epoch = ⟨7⟩ := Inventory.merge_epoch _ _ _ _ x hx
        simp [hepoch]
      rw [hrows, hfiled.mem_putSnapshots, hown, FetchedDelegates.inventory_filter]
      decide +kernel
    have hzero : (0 : Amount) = f.lastPower relisted := hpower _ hlast (by decide)
    revert hzero
    decide +kernel

end Run

end GovernanceIndex
