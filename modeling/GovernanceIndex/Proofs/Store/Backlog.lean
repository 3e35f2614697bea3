import GovernanceIndex.Proofs.Store.Calls
import GovernanceIndex.Proofs.Store.EpochMarks
import Mathlib.Data.List.Basic

/-!
The backlog of a store: the incomplete epochs of a range, the oldest first. A bounded plan takes the
first of them, so an epoch is planned just if the incomplete epochs before it are fewer than the
bound.
-/
namespace GovernanceIndex

namespace Epoch

theorem toNat_ofNat {n : Nat} {e : Epoch} (h : n ≤ e.toNat) :
    (⟨UInt32.ofNat n⟩ : Epoch).toNat = n := by
  have hmax : e.toNat < 4294967296 := e.number.toNat_lt
  change (UInt32.ofNat n).toNat = n
  rw [UInt32.toNat_ofNat']
  omega

theorem bounds_of_mem_range {first last e : Epoch} (h : e ∈ range first last) :
    first.toNat ≤ e.toNat ∧ e.toNat ≤ last.toNat := by
  obtain ⟨n, hn, rfl⟩ := List.mem_map.mp h
  obtain ⟨hfirst, hlast⟩ := List.mem_range'_1.mp hn
  have hle : n ≤ last.toNat := by omega
  rw [toNat_ofNat hle]
  exact ⟨hfirst, hle⟩

theorem range_split {first last e : Epoch} (h : e ∈ range first last) :
    ∃ before after, e ∉ before ∧ range first last = before ++ e :: after ∧
      range first e = before ++ [e] := by
  obtain ⟨hfirst, hlast⟩ := bounds_of_mem_range h
  let epochs (ns : List Nat) : List Epoch := ns.map fun n => ⟨UInt32.ofNat n⟩
  let before := List.range' first.toNat (e.toNat - first.toNat)
  have hupto : List.range' first.toNat (e.toNat + 1 - first.toNat) = before ++ [e.toNat] := by
    rw [Nat.sub_add_comm hfirst, List.range'_1_concat, Nat.add_sub_cancel' hfirst]
  have hall : List.range' first.toNat (last.toNat + 1 - first.toNat) =
      before ++ e.toNat :: List.range' (e.toNat + 1) (last.toNat - e.toNat) := by
    rw [List.append_cons, ← hupto]
    have hjoin := List.range'_append_1 (s := first.toNat) (m := e.toNat + 1 - first.toNat)
      (n := last.toNat - e.toNat)
    rw [show first.toNat + (e.toNat + 1 - first.toNat) = e.toNat + 1 by omega,
      show e.toNat + 1 - first.toNat + (last.toNat - e.toNat) = last.toNat + 1 - first.toNat by
        omega] at hjoin
    exact hjoin.symm
  have hself : (⟨UInt32.ofNat e.toNat⟩ : Epoch) = e := congrArg mk UInt32.ofNat_toNat
  refine ⟨epochs before, epochs (List.range' (e.toNat + 1) (last.toNat - e.toNat)), ?_, ?_, ?_⟩
  · intro hmem
    obtain ⟨n, hn, heq⟩ := List.mem_map.mp hmem
    obtain ⟨-, hlt⟩ := List.mem_range'_1.mp hn
    have hnat := congrArg toNat heq
    rw [toNat_ofNat (e := e) (by omega)] at hnat
    omega
  · unfold range
    rw [hall, List.map_append, List.map_cons, hself]
  · unfold range
    rw [hupto, List.map_append, List.map_singleton, hself]

end Epoch

namespace Store

variable {s s' : Store} {c : Settings} {e last : Epoch}

def isComplete (c : Settings) (s : Store) (e : Epoch) : Bool :=
  (s.checkpoints.get? e).any fun p => p.isComplete c.includeDelegators

theorem isComplete_iff : s.isComplete c e ↔ ∀ step, s.Marked c e step := by
  unfold isComplete Marked syncedAt
  rcases s.checkpoints.get? e with _ | p
  · exact ⟨nofun, fun h => h .dreps nofun⟩
  · rw [Option.any_some, EpochCheckpoint.isComplete]
    simp only [Bool.and_eq_true, Bool.or_eq_true, Bool.not_eq_true']
    constructor
    · rintro ⟨⟨hdreps, htotals⟩, hdelegators⟩ step hstep
      cases step with
      | dreps => exact hdreps
      | totals => exact htotals
      | delegators =>
        rcases hdelegators with hunwanted | hdelegators
        · rw [hstep rfl] at hunwanted
          cases hunwanted
        · exact hdelegators
    · intro h
      refine ⟨⟨h .dreps nofun, h .totals nofun⟩, ?_⟩
      rcases hwanted : c.includeDelegators with _ | _
      · exact .inl rfl
      · exact .inr (h .delegators fun _ => hwanted)

theorem Grows.isComplete (h : Grows s s') (hs : s.isComplete c e) : s'.isComplete c e :=
  isComplete_iff.mpr fun step => h.marked (isComplete_iff.mp hs step)

/-- Every checkpoint is stored once, under its own epoch. -/
structure Keyed (s : Store) : Prop where
  distinct : s.checkpoints.keys.Nodup
  own : ∀ e p, s.checkpoints.get? e = some p → p.epoch = e

theorem checkpoints_of_perform {k : StoreCall} {a : k.Result} (h : s.perform k = .ok (a, s')) :
    s'.checkpoints = s.checkpoints ∨ ∃ e step now, s' = s.markStep e step now := by
  cases k with
  | markStep e step now =>
    cases h
    exact .inr ⟨e, step, now, rfl⟩
  | acquireLease => exact .inl ((acquireLease_sameData h).eq fun s => s.checkpoints)
  | releaseLease => exact .inl ((releaseLease_sameData h).eq fun s => s.checkpoints)
  | renewLease => exact .inl ((renewLease_sameData h).eq fun s => s.checkpoints)
  | _ =>
    cases h
    exact .inl rfl

theorem Keyed.perform {k : StoreCall} {a : k.Result} (hk : s.perform k = .ok (a, s'))
    (h : s.Keyed) : s'.Keyed := by
  rcases checkpoints_of_perform hk with hsame | ⟨e, step, now, rfl⟩
  · exact ⟨hsame ▸ h.distinct, hsame ▸ h.own⟩
  · refine ⟨Table.keys_insert_nodup h.distinct _ _, fun e' p hp => ?_⟩
    unfold markStep at hp
    rw [Table.get?_insert] at hp
    split at hp
    · next he =>
      obtain rfl := Option.some.inj hp
      have hmark (q : EpochCheckpoint) : (q.mark step now).epoch = q.epoch := by
        cases step <;> rfl
      rw [hmark, he]
      rcases hstored : s.checkpoints.get? e with _ | q
      · rfl
      · exact h.own e q hstored
    · exact h.own e' p hp

theorem Reaches.keyed (h : Reaches {} s) : s.Keyed :=
  h.keeps Keyed.perform ⟨List.nodup_nil, fun _ _ hp => by cases hp⟩

theorem Keyed.contains_complete (h : s.Keyed) {first : Epoch} (he : e ∈ Epoch.range first last) :
    (((s.checkpointsBetween first last).filter fun p =>
      p.isComplete c.includeDelegators).map fun p => p.epoch).contains e = s.isComplete c e := by
  rw [Bool.eq_iff_iff, List.contains_iff_mem, List.mem_map]
  unfold isComplete checkpointsBetween Table.valuesBy
  simp only [List.mem_filter, List.mem_map, List.mem_mergeSort, Option.any_eq_true]
  obtain ⟨hfirst, hlast⟩ := Epoch.bounds_of_mem_range he
  constructor
  · rintro ⟨p, ⟨⟨⟨⟨e', p⟩, hmem, rfl⟩, -⟩, hcomplete⟩, rfl⟩
    have hget := Table.get?_of_mem_entries h.distinct hmem
    exact ⟨p, (h.own e' p hget).symm ▸ hget, hcomplete⟩
  · rintro ⟨p, hget, hcomplete⟩
    obtain rfl := h.own e p hget
    refine ⟨p, ⟨⟨⟨_, Table.mem_entries_of_get? hget, rfl⟩, ?_⟩, hcomplete⟩, rfl⟩
    simp only [Epoch.le, hfirst, hlast, decide_true, Bool.and_self]

/-- The incomplete epochs from the first one that is synced up to another one. -/
def backlog (c : Settings) (s : Store) (last : Epoch) : List Epoch :=
  (Epoch.range c.backfillFrom last).filter fun e => !s.isComplete c e

/-- The incomplete epochs that come before an epoch. -/
def ahead (c : Settings) (s : Store) (e : Epoch) : List Epoch :=
  (s.backlog c e).filter fun d => d ≠ e

theorem mem_backlog :
    e ∈ s.backlog c last ↔ e ∈ Epoch.range c.backfillFrom last ∧ ¬ s.isComplete c e := by
  simp [backlog]

theorem backlog_eq_nil (h : last.toNat < c.backfillFrom.toNat) (s : Store) :
    s.backlog c last = [] := by
  rw [List.eq_nil_iff_forall_not_mem]
  intro e he
  obtain ⟨hfirst, hlast⟩ := Epoch.bounds_of_mem_range (mem_backlog.mp he).1
  omega

theorem backlog_split (h : e ∈ s.backlog c last) :
    ∃ later, s.backlog c last = s.ahead c e ++ e :: later ∧ s.backlog c e = s.ahead c e ++ [e] := by
  obtain ⟨hrange, hopen⟩ := mem_backlog.mp h
  obtain ⟨before, after, hnot, hlast, hupto⟩ := Epoch.range_split hrange
  have hopen : (!s.isComplete c e) = true := by simpa using hopen
  have hself : s.backlog c e = (before.filter fun d => !s.isComplete c d) ++ [e] := by
    unfold backlog
    rw [hupto, List.filter_append, List.filter_singleton, hopen]
    rfl
  have hahead : s.ahead c e = before.filter fun d => !s.isComplete c d := by
    unfold ahead
    rw [hself, List.filter_append, List.filter_eq_self.mpr]
    · simp
    · intro d hd
      exact decide_eq_true fun heq => hnot (heq ▸ List.mem_of_mem_filter hd)
  refine ⟨after.filter fun d => !s.isComplete c d, ?_, hahead ▸ hself⟩
  rw [hahead]
  unfold backlog
  rw [hlast, List.filter_append, List.filter_cons, if_pos hopen]

theorem mem_backlog_self (h : e ∈ s.backlog c last) : e ∈ s.backlog c e := by
  obtain ⟨-, -, hself⟩ := backlog_split h
  rw [hself]
  exact List.mem_append_right _ List.mem_cons_self

theorem backlog_grows (h : Grows s s') (last : Epoch) :
    (s'.backlog c last).Sublist (s.backlog c last) := by
  apply List.monotone_filter_right
  intro e he
  rw [Bool.not_eq_true'] at he ⊢
  rw [Bool.eq_false_iff] at he ⊢
  exact fun hs => he (h.isComplete hs)

theorem ahead_grows (h : Grows s s') (e : Epoch) : (s'.ahead c e).Sublist (s.ahead c e) :=
  (backlog_grows h e).filter _

variable {n : Nat}

theorem mem_take_backlog_iff (h : e ∈ s.backlog c last) :
    e ∈ (s.backlog c last).take n ↔ (s.ahead c e).length < n := by
  obtain ⟨later, hsplit, -⟩ := backlog_split h
  rw [hsplit]
  constructor
  · intro hmem
    by_contra hmany
    rw [List.take_append_of_le_length (Nat.le_of_not_lt hmany)] at hmem
    obtain ⟨-, hne⟩ := List.mem_filter.mp (List.mem_of_mem_take hmem)
    exact of_decide_eq_true hne rfl
  · intro hfew
    obtain ⟨m, hm⟩ := Nat.exists_eq_add_of_lt hfew
    have hroom : n - (s.ahead c e).length = m + 1 := by omega
    rw [List.take_append, hroom, List.take_succ_cons]
    exact List.mem_append_right _ List.mem_cons_self

/-- Among the first of the backlog is one that does not fail and that is not behind an epoch, unless
all of them fail and come before it. -/
theorem exists_mem_take_backlog {failing : List Epoch} (h : e ∈ s.backlog c last)
    (he : e ∉ failing) (hfew : ((s.ahead c e).filter fun d => d ∈ failing).length < n) :
    ∃ d ∈ (s.backlog c last).take n, d ∈ s.backlog c e ∧ d ∉ failing := by
  obtain ⟨later, hsplit, hself⟩ := backlog_split h
  by_cases hturn : (s.ahead c e).length < n
  · exact ⟨e, (mem_take_backlog_iff h).mpr hturn, mem_backlog_self h, he⟩
  · rw [hsplit, hself, List.take_append_of_le_length (Nat.le_of_not_lt hturn)]
    by_contra hnone
    have hall : ∀ d ∈ (s.ahead c e).take n, decide (d ∈ failing) = true := by
      intro d hd
      by_contra hd'
      exact hnone ⟨d, hd, List.mem_append_left _ (List.mem_of_mem_take hd), by simpa using hd'⟩
    have hsublist := (List.take_sublist n (s.ahead c e)).filter fun d => d ∈ failing
    rw [List.filter_eq_self.mpr hall] at hsublist
    have hlength := hsublist.length_le
    rw [List.length_take] at hlength
    omega

/-- A bounded plan takes up the first epochs of the backlog. -/
theorem Keyed.chosen_eq (h : s.Keyed) (hn : c.maxEpochsPerRun = some n) (last : Epoch) :
    let complete := ((s.checkpointsBetween c.backfillFrom last).filter fun p =>
      p.isComplete c.includeDelegators).map fun p => p.epoch
    (EpochPlan.make (Epoch.range c.backfillFrom last) complete.contains c.maxEpochsPerRun).chosen =
      (s.backlog c last).take (max n 1) := by
  intro complete
  unfold EpochPlan.make
  rw [hn]
  refine congrArg (List.take (max n 1)) (List.filter_congr fun e he => ?_)
  rw [h.contains_complete he]

end Store

end GovernanceIndex
