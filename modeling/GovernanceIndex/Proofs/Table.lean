import GovernanceIndex.Sync.Inventory

/-!
Laws of tables beyond the one for a single key: their keys are distinct when they were put in one by
one, the last report on a key counts, and entries put in under other keys do not disturb a selection
of entries.
-/
namespace GovernanceIndex

namespace Table

variable {κ ν α : Type} [DecidableEq κ]

/-- The keys of a table in the order in which they were first put in. -/
def keys (t : Table κ ν) : List κ := t.entries.map Prod.fst

theorem mem_entries_of_get? {t : Table κ ν} {k : κ} {v : ν} (h : t.get? k = some v) :
    (k, v) ∈ t.entries := by
  obtain ⟨es⟩ := t
  unfold get? at h
  induction es with
  | nil => cases h
  | cons e es ih =>
    obtain ⟨j, u⟩ := e
    rw [find?] at h
    split at h
    · next hj =>
      cases hj
      cases h
      exact List.mem_cons_self
    · exact List.mem_cons_of_mem _ (ih h)

theorem get?_of_mem_entries {t : Table κ ν} (h : t.keys.Nodup) {k : κ} {v : ν}
    (hmem : (k, v) ∈ t.entries) : t.get? k = some v := by
  obtain ⟨es⟩ := t
  unfold get?
  induction es with
  | nil => cases hmem
  | cons e es ih =>
    obtain ⟨hnot, hes⟩ := List.nodup_cons.mp h
    rw [find?]
    rcases List.mem_cons.mp hmem with rfl | hmem
    · rw [if_pos rfl]
    · have hne : e.1 ≠ k := fun he => hnot (he ▸ List.mem_map_of_mem hmem)
      rw [if_neg hne]
      exact ih hes hmem

theorem mem_keys {t : Table κ ν} {k : κ} : k ∈ t.keys ↔ (t.get? k).isSome := by
  obtain ⟨es⟩ := t
  unfold keys get?
  induction es with
  | nil => simp [find?]
  | cons e es ih =>
    rw [find?]
    by_cases he : e.1 = k
    · simp [he]
    · simpa [he, Ne.symm he] using ih

theorem keys_erase (t : Table κ ν) (k : κ) : (t.erase k).keys = t.keys.filter fun j => j ≠ k := by
  unfold keys erase
  rw [List.filter_map]
  rfl

theorem keys_erase_nodup {t : Table κ ν} (h : t.keys.Nodup) (k : κ) : (t.erase k).keys.Nodup := by
  rw [keys_erase]
  exact h.filter _

theorem get?_erase (t : Table κ ν) (k j : κ) :
    (t.erase k).get? j = if j = k then none else t.get? j := by
  obtain ⟨es⟩ := t
  unfold get? erase
  induction es with
  | nil => simp [find?]
  | cons e es ih =>
    by_cases he : e.1 = k
    · by_cases hj : j = k
      · simpa [he, hj] using ih
      · simpa [find?, he, hj, Ne.symm hj] using ih
    · by_cases hj : e.1 = j
      · have hne : ¬ j = k := fun h => he (hj.trans h)
        simp [find?, hj, hne]
      · simpa [find?, he, hj] using ih

theorem mem_keys_insert (t : Table κ ν) (k j : κ) (v : ν) :
    j ∈ (t.insert k v).keys ↔ j = k ∨ j ∈ t.keys := by
  unfold keys insert
  induction t.entries with
  | nil => simp [put]
  | cons e es ih =>
    by_cases he : e.1 = k
    · simp [put, he]
    · simp only [put, he, ↓reduceIte, List.map_cons, List.mem_cons, ih]
      exact or_left_comm

theorem keys_insert_nodup {t : Table κ ν} (h : t.keys.Nodup) (k : κ) (v : ν) :
    (t.insert k v).keys.Nodup := by
  obtain ⟨es⟩ := t
  induction es with
  | nil => simp [keys, insert, put]
  | cons e es ih =>
    obtain ⟨hnot, hes⟩ := List.nodup_cons.mp h
    unfold keys insert at ih ⊢
    by_cases he : e.1 = k
    · simp only [put, he, ↓reduceIte]
      exact List.nodup_cons.mpr ⟨he ▸ hnot, hes⟩
    · have hmem : e.1 ∉ (put k v es).map Prod.fst := fun h =>
        ((mem_keys_insert ⟨es⟩ k e.1 v).mp h).elim he hnot
      simp only [put, he, ↓reduceIte]
      exact List.nodup_cons.mpr ⟨hmem, ih hes⟩

theorem keys_foldl_insert_nodup (f : α → κ × ν) (xs : List α) {t : Table κ ν}
    (h : t.keys.Nodup) : (xs.foldl (fun t x => t.insert (f x).1 (f x).2) t).keys.Nodup := by
  induction xs generalizing t with
  | nil => exact h
  | cons x xs ih => exact ih (keys_insert_nodup h _ _)

/-- A table filled from a list has for every key the last value that the list has for it. -/
theorem get?_foldl_insert (xs : List (κ × ν)) (t : Table κ ν) (k : κ) :
    (xs.foldl (fun t x => t.insert x.1 x.2) t).get? k =
      ((xs.filter fun x => x.1 = k).getLast?.map Prod.snd).or (t.get? k) := by
  induction xs generalizing t with
  | nil => rfl
  | cons x xs ih =>
    rw [List.foldl_cons, ih, get?_insert]
    by_cases hx : x.1 = k
    · rw [if_pos hx.symm, List.filter_cons_of_pos (by simpa using hx), List.getLast?_cons]
      cases (xs.filter fun x => x.1 = k).getLast? <;> rfl
    · rw [if_neg (Ne.symm hx), List.filter_cons_of_neg (by simpa using hx)]

theorem map_filter_key {t : Table κ ν} (h : t.keys.Nodup) (k : κ) :
    (t.entries.filter fun x => x.1 = k).map Prod.snd = (t.get? k).toList := by
  obtain ⟨es⟩ := t
  unfold get?
  induction es with
  | nil => rfl
  | cons x es ih =>
    obtain ⟨hnot, hes⟩ := List.nodup_cons.mp h
    rw [find?]
    by_cases hx : x.1 = k
    · have hnone : (es.filter fun x => x.1 = k) = [] := by
        rw [List.filter_eq_nil_iff]
        intro y hy hkey
        exact hnot (hx.trans (of_decide_eq_true hkey).symm ▸ List.mem_map_of_mem hy)
      rw [List.filter_cons_of_pos (by simpa using hx), hnone, if_pos hx]
      rfl
    · rw [List.filter_cons_of_neg (by simpa using hx), if_neg hx]
      exact ih hes

theorem insert_insert (t : Table κ ν) (k : κ) (u v : ν) :
    (t.insert k u).insert k v = t.insert k v := by
  obtain ⟨es⟩ := t
  suffices h : put k v (put k u es) = put k v es from congrArg Table.mk h
  induction es with
  | nil => simp [put]
  | cons e es ih =>
    by_cases he : e.1 = k
    · simp [put, he]
    · simpa [put, he] using ih

theorem erase_insert (t : Table κ ν) (k : κ) (v : ν) : (t.insert k v).erase k = t.erase k := by
  obtain ⟨es⟩ := t
  suffices h : (put k v es).filter (fun e => e.1 ≠ k) = es.filter fun e => e.1 ≠ k from
    congrArg Table.mk h
  induction es with
  | nil => simp [put]
  | cons e es ih =>
    by_cases he : e.1 = k
    · simp [put, he]
    · simpa [put, he] using ih

theorem filter_put_of_neg {p : κ × ν → Bool} {k : κ} (hp : ∀ v, p (k, v) = false) (v : ν)
    (es : List (κ × ν)) : (put k v es).filter p = es.filter p := by
  induction es with
  | nil => simp [put, hp]
  | cons e es ih =>
    obtain ⟨j, u⟩ := e
    by_cases he : j = k
    · subst he
      simp [put, hp]
    · simp only [put, he, ↓reduceIte, List.filter_cons, ih]

theorem find?_map (g : ν → α) (k : κ) (es : List (κ × ν)) :
    find? k (es.map fun e => (e.1, g e.2)) = (find? k es).map g := by
  induction es with
  | nil => rfl
  | cons e es ih =>
    simp only [List.map_cons, find?]
    split
    · rfl
    · exact ih

theorem map_put (g : ν → α) (k : κ) (v : ν) (es : List (κ × ν)) :
    (put k v es).map (fun e => (e.1, g e.2)) = put k (g v) (es.map fun e => (e.1, g e.2)) := by
  induction es with
  | nil => rfl
  | cons e es ih =>
    simp only [List.map_cons, put]
    split
    · rfl
    · rw [List.map_cons, ih]

/-- Every value is kept once, under its own key. -/
structure KeyedBy (key : ν → κ) (t : Table κ ν) : Prop where
  distinct : t.keys.Nodup
  own : ∀ k v, t.get? k = some v → k = key v

theorem get?_foldl_insert_by (key : ν → κ) (rows : List ν) (t : Table κ ν) (k : κ) :
    (rows.foldl (fun t r => t.insert (key r) r) t).get? k =
      (rows.filter fun r => key r = k).getLast?.or (t.get? k) := by
  have hfold := get?_foldl_insert (rows.map fun r => (key r, r)) t k
  rw [List.foldl_map, List.filter_map, List.getLast?_map, Option.map_map] at hfold
  rw [hfold]
  exact congrArg (fun last => Option.or last _) (Option.map_id_fun' ▸ rfl)

theorem KeyedBy.foldl_insert {key : ν → κ} {t : Table κ ν} (h : t.KeyedBy key) (rows : List ν) :
    (rows.foldl (fun t r => t.insert (key r) r) t).KeyedBy key := by
  refine ⟨keys_foldl_insert_nodup (fun r => (key r, r)) rows h.distinct, fun k v hv => ?_⟩
  rw [get?_foldl_insert_by] at hv
  rcases hlast : (rows.filter fun r => key r = k).getLast? with _ | x <;> rw [hlast] at hv
  · exact h.own k v hv
  · cases hv
    exact (of_decide_eq_true (List.mem_filter.mp (List.mem_of_getLast? hlast)).2).symm

end Table

namespace Inventory

variable {κ ν : Type} [DecidableEq κ] {reports : List (κ × ν)}

theorem get?_latest (reports : List (κ × ν)) (k : κ) :
    (latest reports).get? k = (reports.filter fun x => x.1 = k).getLast?.map Prod.snd := by
  unfold latest
  rw [Table.get?_foldl_insert, Table.get?_empty, Option.or_none]

theorem latest_nodup (reports : List (κ × ν)) : (latest reports).keys.Nodup :=
  Table.keys_foldl_insert_nodup id reports List.nodup_nil

theorem mem_keys_latest {k : κ} : k ∈ (latest reports).keys ↔ k ∈ reports.map Prod.fst := by
  rw [Table.mem_keys, get?_latest, Option.isSome_map, List.getLast?_isSome]
  simp [List.filter_eq_nil_iff]

end Inventory

end GovernanceIndex
