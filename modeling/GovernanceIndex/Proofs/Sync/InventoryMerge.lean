import GovernanceIndex.Proofs.Identifier
import GovernanceIndex.Proofs.Table
import Mathlib.Algebra.BigOperators.Group.List.Basic
import Mathlib.Algebra.GroupWithZero.Nat
import Mathlib.Data.List.Dedup

/-!
The inventory conserves voting power. Listed delegates take their power out of a table, and what is
left in the table makes rows of its own, so every power that was reported last for a delegate is in
one row. What is left comes in the order of the table, which the sort forgets: under one delegate
there are either entries of the listing, in their order, or a single row.
-/
namespace GovernanceIndex

namespace Table

variable {κ ν : Type} [DecidableEq κ] {t u : Table κ ν}

theorem get?_eq_some_iff (h : t.keys.Nodup) {k : κ} {v : ν} :
    t.get? k = some v ↔ (k, v) ∈ t.entries :=
  ⟨mem_entries_of_get?, get?_of_mem_entries h⟩

theorem get?_of_perm (h : t.entries.Perm u.entries) (hu : u.keys.Nodup) (k : κ) :
    t.get? k = u.get? k := by
  have ht : t.keys.Nodup := (h.map Prod.fst).nodup_iff.mpr hu
  ext v
  rw [get?_eq_some_iff ht, get?_eq_some_iff hu, h.mem_iff]

theorem sum_erase {t : Table κ Nat} (h : t.keys.Nodup) (k : κ) :
    (t.get? k).getD 0 + ((t.erase k).entries.map Prod.snd).sum =
      (t.entries.map Prod.snd).sum := by
  have hvalue : (t.get? k).getD 0 = ((t.entries.filter fun e => e.1 = k).map Prod.snd).sum := by
    rw [map_filter_key h]
    cases t.get? k <;> rfl
  have hrest : (t.erase k).entries = t.entries.filter fun e => !decide (e.1 = k) := by
    simp [erase]
  rw [hvalue, hrest, ← List.sum_append, ← List.map_append]
  exact ((List.filter_append_perm _ t.entries).map Prod.snd).sum_eq

end Table

namespace Inventory

variable {epoch : Epoch} {infos : Table DelegateId DelegateInfo}
  {powers : Table DelegateId Amount} {listed : List ListedDelegate} {d : DelegateId}

/-- The row of a delegate that has power without being listed. -/
def unlistedRow (epoch : Epoch) (d : DelegateId) (power : Amount) : DelegateSnapshot :=
  { epoch, delegate := d, registered := d.isPredefined, active := d.isPredefined,
    votingPower := power }

/-- The rows of one delegate from its entries in the listing: the first one has its power. -/
def rowsOf (epoch : Epoch) (infos : Table DelegateId DelegateInfo) (d : DelegateId)
    (power : Option Amount) : List ListedDelegate → List DelegateSnapshot
  | [] => power.toList.map (unlistedRow epoch d)
  | entry :: again =>
    { listedRow epoch infos {} entry with votingPower := power.getD 0 } ::
      again.map (listedRow epoch infos {})

theorem listedRow_of_get? {power : Option Amount} {entry : ListedDelegate}
    (h : powers.get? entry.delegate = power) :
    listedRow epoch infos powers entry =
      { listedRow epoch infos {} entry with votingPower := power.getD 0 } := by
  subst h
  rfl

theorem rows_filter (hpowers : powers.keys.Nodup) :
    (rows epoch infos powers listed).filter (fun r => r.delegate = d) =
      rowsOf epoch infos d (powers.get? d) (listed.filter fun x => x.delegate = d) := by
  induction listed generalizing powers with
  | nil =>
    rw [rows, List.filter_map, List.filter_nil, rowsOf, ← Table.map_filter_key hpowers,
      List.map_map]
    apply List.map_congr_left
    rintro ⟨k, power⟩ he
    obtain rfl : k = d := of_decide_eq_true (List.mem_filter.mp he).2
    rfl
  | cons x rest ih =>
    have hrest := ih (Table.keys_erase_nodup hpowers x.delegate)
    rw [Table.get?_erase] at hrest
    by_cases hx : x.delegate = d
    · -- The first entry takes the power, so those behind it find none.
      rw [if_pos hx.symm] at hrest
      have hrow : (listedRow epoch infos powers x).delegate = d := hx
      rw [rows, List.filter_cons_of_pos (by simpa using hrow),
        List.filter_cons_of_pos (by simpa using hx), hrest, rowsOf,
        listedRow_of_get? (congrArg powers.get? hx)]
      congr 1
      cases rest.filter fun x => x.delegate = d <;> rfl
    · rw [if_neg (Ne.symm hx)] at hrest
      have hrow : ¬ (listedRow epoch infos powers x).delegate = d := hx
      rw [rows, List.filter_cons_of_neg (by simpa using hrow),
        List.filter_cons_of_neg (by simpa using hx), hrest]

theorem rows_total (hpowers : powers.keys.Nodup) :
    ((rows epoch infos powers listed).map fun r => r.votingPower).sum =
      (powers.entries.map Prod.snd).sum := by
  induction listed generalizing powers with
  | nil =>
    rw [rows, List.map_map]
    rfl
  | cons x rest ih =>
    rw [rows, List.map_cons, List.sum_cons, ih (Table.keys_erase_nodup hpowers _)]
    exact Table.sum_erase hpowers x.delegate

theorem rows_flags :
    (rows epoch infos powers listed).map (fun r => (r.delegate, r.registered, r.active)) =
      listed.map (fun x => (x.delegate, (listedRow epoch infos {} x).registered,
        (listedRow epoch infos {} x).active)) ++
      (powers.keys.filter fun d => d ∉ listed.map fun x => x.delegate).map
        fun d => (d, d.isPredefined, d.isPredefined) := by
  induction listed generalizing powers with
  | nil =>
    simp only [rows, Table.keys, List.map_map, List.map_nil, List.not_mem_nil, not_false_eq_true,
      decide_true, List.filter_true, List.nil_append]
    rfl
  | cons x rest ih =>
    rw [rows, List.map_cons, ih, Table.keys_erase, List.filter_filter, List.map_cons,
      List.cons_append]
    congr 3
    apply List.filter_congr
    intro d _
    rw [List.map_cons]
    simp [Bool.and_comm]

theorem merge_epoch (epoch : Epoch) (listed : List ListedDelegate)
    (infos : List DelegateInfo) (powers : List DelegatePower) :
    ∀ r ∈ merge epoch listed infos powers, r.epoch = epoch := by
  have hrows (infos : Table DelegateId DelegateInfo) (powers : Table DelegateId Amount) :
      ∀ r ∈ rows epoch infos powers listed, r.epoch = epoch := by
    induction listed generalizing powers with
    | nil =>
      intro r hr
      obtain ⟨p, -, rfl⟩ := List.mem_map.mp hr
      rfl
    | cons entry rest ih => exact List.forall_mem_cons.mpr ⟨rfl, ih _⟩
  intro r hr
  exact hrows _ _ r (List.mem_mergeSort.mp hr)

theorem mergeSort_rows_of_perm {infos' : Table DelegateId DelegateInfo}
    {powers' : Table DelegateId Amount} (hinfos : infos'.entries.Perm infos.entries)
    (hinfos_nodup : infos.keys.Nodup) (hpowers : powers'.entries.Perm powers.entries)
    (hpowers_nodup : powers.keys.Nodup) :
    ((rows epoch infos' powers' listed).mergeSort fun a b => a.delegate.le b.delegate) =
      (rows epoch infos powers listed).mergeSort fun a b => a.delegate.le b.delegate := by
  have hnodup' : powers'.keys.Nodup := (hpowers.map Prod.fst).nodup_iff.mpr hpowers_nodup
  have hrow : listedRow epoch infos' {} = listedRow epoch infos {} := by
    funext x
    unfold listedRow
    rw [Table.get?_of_perm hinfos hinfos_nodup]
  apply Identifier.mergeSort_eq_of_filter (f := fun r : DelegateSnapshot => r.delegate)
  intro d
  rw [rows_filter hnodup', rows_filter hpowers_nodup, Table.get?_of_perm hpowers hpowers_nodup]
  cases listed.filter fun x => x.delegate = d with
  | nil => rfl
  | cons x again => rw [rowsOf, rowsOf, hrow]

end Inventory

namespace FetchedDelegates

def ids (f : FetchedDelegates) : List DelegateId :=
  f.listed.map (fun x => x.delegate) ++ f.powers.map fun p => p.delegate

/-- The last power reported for a delegate, and zero if none was. -/
def lastPower (f : FetchedDelegates) (d : DelegateId) : Amount :=
  ((f.powers.filter fun p => p.delegate = d).getLast?.map fun p => p.amount).getD 0

def unlisted (f : FetchedDelegates) : List DelegateId :=
  ((f.powers.map fun p => p.delegate).filter fun d =>
    d ∉ f.listed.map fun x => x.delegate).dedup

def lastInfo (f : FetchedDelegates) (d : DelegateId) : Option DelegateInfo :=
  (f.infos.filter fun i => i.delegate = d).getLast?

def infoTable (f : FetchedDelegates) : Table DelegateId DelegateInfo :=
  Inventory.latest (f.infos.map fun i => (i.delegate, i))

def powerTable (f : FetchedDelegates) : Table DelegateId Amount :=
  Inventory.latest (f.powers.map fun p => (p.delegate, p.amount))

/-- Rows say of the delegates that were fetched what is known of them, and have their power. -/
structure Conserves (f : FetchedDelegates) (epoch : Epoch) (rows : List DelegateSnapshot) :
    Prop where
  epochs : ∀ r ∈ rows, r.epoch = epoch
  ordered : rows.Pairwise fun a b => a.delegate.le b.delegate = true
  /-- Each entry of the listing has a row, and each delegate that only has power has one. -/
  delegates : (rows.map fun r => r.delegate).Perm
    (f.listed.map (fun x => x.delegate) ++ f.unlisted)
  /-- What was told last of a listed delegate counts, and only the predefined ones count as
  registered and active without being listed. -/
  flags : (rows.map fun r => (r.delegate, r.registered, r.active)).Perm
    (f.listed.map (fun x =>
      (x.delegate, ((f.lastInfo x.delegate).map fun i => i.registered).getD x.registered,
        ((f.lastInfo x.delegate).map fun i => i.active).getD false)) ++
      f.unlisted.map fun d => (d, d.isPredefined, d.isPredefined))
  /-- The last power reported for a delegate is in one row of it and nothing in the others. -/
  power : ∀ d ∈ f.powers.map (fun p => p.delegate), ∃ before r after,
    rows = before ++ r :: after ∧ r.delegate = d ∧ r.votingPower = f.lastPower d ∧
      ∀ x ∈ before ++ after, x.delegate = d → x.votingPower = 0
  powerless : ∀ r ∈ rows, r.delegate ∉ f.powers.map (fun p => p.delegate) → r.votingPower = 0
  total : (rows.map fun r => r.votingPower).sum =
    ((f.powers.map fun p => p.delegate).dedup.map f.lastPower).sum
  /-- However the entries of the tables come, the rows are these. -/
  unordered : ∀ (infos : Table DelegateId DelegateInfo) (powers : Table DelegateId Amount),
    infos.entries.Perm f.infoTable.entries → powers.entries.Perm f.powerTable.entries →
      ((Inventory.rows epoch infos powers f.listed).mergeSort fun a b =>
        a.delegate.le b.delegate) = rows

variable {f : FetchedDelegates} {epoch : Epoch} {d : DelegateId}

theorem infoTable_get? (f : FetchedDelegates) (d : DelegateId) :
    f.infoTable.get? d = f.lastInfo d := by
  unfold infoTable lastInfo
  rw [Inventory.get?_latest, List.filter_map, List.getLast?_map, Option.map_map]
  exact congrFun Option.map_id _

theorem powerTable_get? (f : FetchedDelegates) (d : DelegateId) :
    f.powerTable.get? d =
      (f.powers.filter fun p => p.delegate = d).getLast?.map fun p => p.amount := by
  unfold powerTable
  rw [Inventory.get?_latest, List.filter_map, List.getLast?_map, Option.map_map]
  rfl

theorem powerTable_nodup (f : FetchedDelegates) : f.powerTable.keys.Nodup :=
  Inventory.latest_nodup _

theorem mem_powerTable : d ∈ f.powerTable.keys ↔ d ∈ f.powers.map fun p => p.delegate := by
  unfold powerTable
  rw [Inventory.mem_keys_latest, List.map_map]
  rfl

theorem powerTable_getD (f : FetchedDelegates) (d : DelegateId) :
    (f.powerTable.get? d).getD 0 = f.lastPower d := by
  rw [powerTable_get?]
  rfl

theorem lastPower_of_not_mem (hd : d ∉ f.powers.map fun p => p.delegate) : f.lastPower d = 0 := by
  have hnone : (f.powers.filter fun p => p.delegate = d) = [] := by
    rw [List.filter_eq_nil_iff]
    exact fun p hp hpd => hd (List.mem_map.mpr ⟨p, hp, of_decide_eq_true hpd⟩)
  unfold lastPower
  rw [hnone]
  rfl

theorem powerTable_keys_perm (f : FetchedDelegates) :
    f.powerTable.keys.Perm (f.powers.map fun p => p.delegate).dedup := by
  rw [List.perm_ext_iff_of_nodup f.powerTable_nodup (List.nodup_dedup _)]
  intro d
  rw [mem_powerTable, List.mem_dedup]

theorem powerTable_keys_filter_perm (f : FetchedDelegates) :
    (f.powerTable.keys.filter fun d => d ∉ f.listed.map fun x => x.delegate).Perm f.unlisted := by
  unfold unlisted
  rw [List.perm_ext_iff_of_nodup (f.powerTable_nodup.filter _) (List.nodup_dedup _)]
  intro d
  rw [List.mem_dedup, List.mem_filter, List.mem_filter, mem_powerTable]

theorem powerTable_total (f : FetchedDelegates) :
    (f.powerTable.entries.map Prod.snd).sum =
      ((f.powers.map fun p => p.delegate).dedup.map f.lastPower).sum := by
  rw [← (f.powerTable_keys_perm.map f.lastPower).sum_eq, Table.keys, List.map_map]
  congr 1
  apply List.map_congr_left
  rintro ⟨d, power⟩ he
  have hget := Table.get?_of_mem_entries f.powerTable_nodup he
  exact (congrArg (fun power => power.getD 0) hget).symm.trans (f.powerTable_getD d)

theorem inventory_perm (f : FetchedDelegates) (epoch : Epoch) :
    (f.inventory epoch).Perm (Inventory.rows epoch f.infoTable f.powerTable f.listed) :=
  List.mergeSort_perm _ _

theorem inventory_filter (f : FetchedDelegates) (epoch : Epoch) (d : DelegateId) :
    (f.inventory epoch).filter (fun r => r.delegate = d) =
      Inventory.rowsOf epoch f.infoTable d (f.powerTable.get? d)
        (f.listed.filter fun x => x.delegate = d) := by
  rw [← Inventory.rows_filter f.powerTable_nodup]
  exact Identifier.mergeSort_filter (fun r : DelegateSnapshot => r.delegate) _ d

theorem inventory_flags (f : FetchedDelegates) (epoch : Epoch) :
    ((f.inventory epoch).map fun r => (r.delegate, r.registered, r.active)).Perm
      (f.listed.map (fun x =>
        (x.delegate, ((f.lastInfo x.delegate).map fun i => i.registered).getD x.registered,
          ((f.lastInfo x.delegate).map fun i => i.active).getD false)) ++
        f.unlisted.map fun d => (d, d.isPredefined, d.isPredefined)) := by
  refine ((f.inventory_perm epoch).map _).trans ?_
  rw [Inventory.rows_flags]
  refine List.Perm.append ?_ (f.powerTable_keys_filter_perm.map _)
  simp only [Inventory.listedRow, infoTable_get?]
  exact List.Perm.refl _

/-- The rows of a delegate with reported power: one that has it and others with nothing. -/
theorem exists_rowsOf (epoch : Epoch) (hd : d ∈ f.powers.map fun p => p.delegate) :
    ∃ r others, (f.inventory epoch).filter (fun r => r.delegate = d) = r :: others ∧
      r.votingPower = f.lastPower d ∧ ∀ x ∈ others, x.votingPower = 0 := by
  rw [inventory_filter]
  obtain ⟨power, hpower⟩ := Option.isSome_iff_exists.mp (Table.mem_keys.mp (mem_powerTable.mpr hd))
  have hlast : power = f.lastPower d := by
    rw [← f.powerTable_getD, hpower]
    rfl
  rw [hpower]
  cases f.listed.filter fun x => x.delegate = d with
  | nil => exact ⟨_, [], rfl, hlast, by simp⟩
  | cons entry again =>
    refine ⟨_, _, rfl, hlast, fun x hx => ?_⟩
    obtain ⟨y, -, rfl⟩ := List.mem_map.mp hx
    rfl

theorem inventory_powered (hd : d ∈ f.powers.map fun p => p.delegate) :
    ∃ before r after, f.inventory epoch = before ++ r :: after ∧ r.delegate = d ∧
      r.votingPower = f.lastPower d ∧
      ∀ x ∈ before ++ after, x.delegate = d → x.votingPower = 0 := by
  obtain ⟨r, others, hfilter, hpower, hothers⟩ := exists_rowsOf epoch hd
  obtain ⟨before, after, hrows, hbefore, hr, hafter⟩ := List.filter_eq_cons_iff.mp hfilter
  refine ⟨before, r, after, hrows, of_decide_eq_true hr, hpower, fun x hx hxd => ?_⟩
  rcases List.mem_append.mp hx with hx | hx
  · exact absurd (decide_eq_true hxd) (hbefore x hx)
  · exact hothers x (hafter ▸ List.mem_filter.mpr ⟨hx, decide_eq_true hxd⟩)

theorem inventory_powerless {r : DelegateSnapshot} (hr : r ∈ f.inventory epoch)
    (hd : r.delegate ∉ f.powers.map fun p => p.delegate) : r.votingPower = 0 := by
  have hmem : r ∈ (f.inventory epoch).filter fun x => x.delegate = r.delegate :=
    List.mem_filter.mpr ⟨hr, decide_eq_true rfl⟩
  have hnone : f.powerTable.get? r.delegate = none := by
    rw [← Option.not_isSome_iff_eq_none, ← Table.mem_keys, mem_powerTable]
    exact hd
  rw [inventory_filter, hnone] at hmem
  cases hentries : f.listed.filter fun x => x.delegate = r.delegate with
  | nil => simp [hentries, Inventory.rowsOf] at hmem
  | cons entry again =>
    rw [hentries] at hmem
    rcases List.mem_cons.mp hmem with heq | hmem
    · rw [heq]
      rfl
    · obtain ⟨y, -, heq⟩ := List.mem_map.mp hmem
      rw [← heq]
      rfl

theorem inventory_conserves (f : FetchedDelegates) (epoch : Epoch) :
    f.Conserves epoch (f.inventory epoch) where
  epochs := Inventory.merge_epoch _ _ _ _
  ordered := Identifier.pairwise_mergeSort (fun r : DelegateSnapshot => r.delegate) _
  delegates := by
    have hflags := (f.inventory_flags epoch).map Prod.fst
    rw [List.map_append, List.map_map, List.map_map, List.map_map] at hflags
    simpa [Function.comp_def] using hflags
  flags := f.inventory_flags epoch
  power _ := inventory_powered
  powerless _ := inventory_powerless
  total := by
    rw [((f.inventory_perm epoch).map _).sum_eq, Inventory.rows_total f.powerTable_nodup,
      powerTable_total]
  unordered infos powers hinfos hpowers :=
    Inventory.mergeSort_rows_of_perm hinfos (Inventory.latest_nodup _) hpowers f.powerTable_nodup

theorem mem_inventory :
    d ∈ (f.inventory epoch).map (fun r => r.delegate) ↔ d ∈ f.ids := by
  rw [(f.inventory_conserves epoch).delegates.mem_iff]
  unfold unlisted ids
  rw [List.mem_append, List.mem_append, List.mem_dedup, List.mem_filter, decide_eq_true_eq]
  by_cases hd : d ∈ f.listed.map fun x => x.delegate <;> simp only [hd] <;> simp

theorem inventory_nodup (f : FetchedDelegates) (hlisted : (f.listed.map fun x => x.delegate).Nodup) (epoch : Epoch) :
    ((f.inventory epoch).map fun r => r.delegate).Nodup := by
  rw [(f.inventory_conserves epoch).delegates.nodup_iff]
  refine hlisted.append (List.nodup_dedup _) fun d hd hunlisted => ?_
  have hother := (List.mem_filter.mp (List.mem_dedup.mp hunlisted)).2
  exact of_decide_eq_true hother hd

/-- The power in the row of a delegate is that reported for it, unless it is listed again. -/
theorem inventory_power (honce : (f.listed.countP fun x => x.delegate = d) ≤ 1)
    {r : DelegateSnapshot} (hr : r ∈ f.inventory epoch) (hd : r.delegate = d) :
    r.votingPower = f.lastPower d := by
  have hmem : r ∈ (f.inventory epoch).filter fun r => r.delegate = d :=
    List.mem_filter.mpr ⟨hr, decide_eq_true hd⟩
  rw [inventory_filter] at hmem
  rw [List.countP_eq_length_filter] at honce
  rw [← f.powerTable_getD]
  rcases hentries : f.listed.filter fun x => x.delegate = d with _ | ⟨entry, again⟩
  · rw [hentries] at hmem
    obtain ⟨power, hpower, rfl⟩ := List.mem_map.mp hmem
    rw [Option.mem_toList.mp hpower]
    rfl
  · rw [hentries] at hmem honce
    obtain rfl : again = [] := List.eq_nil_of_length_eq_zero (by simpa using honce)
    obtain rfl := List.mem_singleton.mp hmem
    rfl

/-- An inventory has every delegate with power once, even if delegates are listed twice. -/
theorem targets_nodup (f : FetchedDelegates) (epoch : Epoch) :
    (Inventory.targets (f.inventory epoch)).Nodup := by
  rw [List.nodup_iff_count_le_one]
  intro d
  have hcount : (Inventory.targets (f.inventory epoch)).count d =
      (((f.inventory epoch).filter fun r => r.delegate = d).filter
        fun r => r.votingPower ≠ 0).length := by
    unfold Inventory.targets
    rw [List.filter_filter, ← List.countP_eq_length_filter, List.count, List.countP_map,
      List.countP_filter]
    apply List.countP_congr
    intro r _
    simp [and_comm]
  rw [hcount, inventory_filter]
  cases f.listed.filter fun x => x.delegate = d with
  | nil =>
    have hrows : (Inventory.rowsOf epoch f.infoTable d (f.powerTable.get? d) []).length ≤ 1 := by
      rw [Inventory.rowsOf, List.length_map]
      cases f.powerTable.get? d <;> simp
    exact Nat.le_trans (List.length_filter_le _ _) hrows
  | cons entry again =>
    have hagain : (again.map (Inventory.listedRow epoch f.infoTable {})).filter
        (fun r => r.votingPower ≠ 0) = [] := by
      rw [List.filter_eq_nil_iff, List.forall_mem_map]
      intro x _
      simp [Inventory.listedRow]
    rw [Inventory.rowsOf, List.filter_cons, hagain]
    split <;> simp

end FetchedDelegates

namespace Run

/-- The inventory of an epoch is made of what is fetched, and conserves its voting power, whatever
is listed and reported, and however often. -/
theorem fetchInventory_conserves (epoch : Epoch) :
    (∀ {L : Type} [LedgerService L] (c : Settings),
      (fetchInventory c epoch : Run L (List DelegateSnapshot)) =
        fetchDelegates c epoch >>= fun f => pure (f.inventory epoch)) ∧
    ∀ f : FetchedDelegates, f.Conserves epoch (f.inventory epoch) :=
  ⟨fun _ => rfl, fun f => f.inventory_conserves epoch⟩

/-- Of a delegate that is listed twice, the last power that was reported is in the first row. -/
example :
    let d : DelegateId := ⟨"drep1f", by decide⟩
    let f : FetchedDelegates :=
      ⟨[⟨d, false⟩, ⟨d, true⟩], [], [⟨d, ⟨7⟩, 3⟩, ⟨d, ⟨7⟩, 5⟩]⟩
    (f.inventory ⟨7⟩).map (fun r => (r.registered, r.votingPower)) = [(false, 5), (true, 0)] := by
  cbv

end Run

end GovernanceIndex
