import GovernanceIndex.Proofs.Ledger.ReturnedLists
import GovernanceIndex.Proofs.Sync.Recall

/-!
What the last step of an epoch aims at and what it stores. It looks up the delegators of the
delegates of an inventory that have power; no stored row with power is missing from them. Of every
such row the store has one summary, the one that was put last.
-/
namespace GovernanceIndex

open LedgerService (returned)

namespace Inventory

/-- The delegates of rows that have power come once each, and no stored row with power is of another
one. -/
structure Aims (rows stored : List DelegateSnapshot) : Prop where
  distinct : (targets rows).Nodup
  all : ∀ r ∈ stored, r.votingPower ≠ 0 → r.delegate ∈ targets rows

theorem mem_targets {rows : List DelegateSnapshot} {r : DelegateSnapshot} (hr : r ∈ rows)
    (hpower : r.votingPower ≠ 0) : r.delegate ∈ targets rows :=
  List.mem_map_of_mem (List.mem_filter.mpr ⟨hr, decide_eq_true hpower⟩)

theorem Aims.stored {s : Store} (h : s.Filed) (e : Epoch) :
    Aims (s.snapshotsOf e) (s.snapshotsOf e) :=
  ⟨(List.filter_sublist.map _).nodup (h.snapshotsOf_nodup e), fun _ => mem_targets⟩

theorem Aims.fetched (f : FetchedDelegates) (e : Epoch) : Aims (f.inventory e) [] :=
  ⟨f.targets_nodup e, nofun⟩

theorem Aims.put {s : Store} {e : Epoch} (h : s.Filed) (hempty : s.snapshotsOf e = [])
    (f : FetchedDelegates) :
    Aims (f.inventory e) ((s.putSnapshots (f.inventory e)).snapshotsOf e) := by
  refine ⟨f.targets_nodup e, fun r hr hpower => ?_⟩
  have hepoch : ∀ x ∈ f.inventory e, x.epoch = e := merge_epoch e _ _ _
  by_cases hd : r.delegate ∈ (f.inventory e).map fun x => x.delegate
  · obtain ⟨x, hx, -, hiff⟩ := h.exists_mem_putSnapshots hepoch hd
    obtain rfl : r = x := (hiff r rfl).mp hr
    exact mem_targets hx hpower
  · rw [h.mem_putSnapshots_of_not_mem hd, hempty] at hr
    cases hr

end Inventory

open Inventory (Aims)

namespace Store

/-- Every summary is stored once, under its own epoch and delegate. -/
def Tallied (s : Store) : Prop := s.summaries.KeyedBy fun x => (x.epoch, x.delegate)

variable {s s' : Store} {rows : List DelegatorSummary}

theorem Tallied.sameData (h : s.Tallied) (hdata : s.SameData s') : s'.Tallied := by
  have hsummaries : s'.summaries = s.summaries := hdata.eq fun s => s.summaries
  unfold Tallied
  rw [hsummaries]
  exact h

theorem Tallied.perform {k : StoreCall} {a : k.Result} (hk : s.perform k = .ok (a, s'))
    (h : s.Tallied) : s'.Tallied := by
  cases k with
  | putSummaries rows =>
    cases hk
    exact h.foldl_insert rows
  | acquireLease => exact h.sameData (acquireLease_sameData hk)
  | releaseLease => exact h.sameData (releaseLease_sameData hk)
  | renewLease => exact h.sameData (renewLease_sameData hk)
  | _ =>
    cases hk
    exact h

theorem Tallied.filter_summariesOf (h : s.Tallied) (e : Epoch) (d : DelegateId) :
    (s.summariesOf e).filter (fun x => x.delegate = d) = (s.summaries.get? (e, d)).toList := by
  have hown {x : (Epoch × DelegateId) × DelegatorSummary} (hx : x ∈ s.summaries.entries) :
      x.1 = (x.2.epoch, x.2.delegate) :=
    h.own x.1 x.2 (Table.get?_of_mem_entries h.distinct hx)
  have hkeys : ((s.summaries.entries.filter fun x => x.1.1 = e).filter fun x => x.2.delegate = d) =
      s.summaries.entries.filter fun x => x.1 = (e, d) := by
    rw [List.filter_filter]
    refine List.filter_congr fun x hx => ?_
    rw [Bool.eq_iff_iff, Bool.and_eq_true, decide_eq_true_iff, decide_eq_true_iff,
      decide_eq_true_iff, hown hx, Prod.mk.injEq]
    exact and_comm
  have hperm : ((s.summariesOf e).filter fun x => x.delegate = d).Perm
      (s.summaries.get? (e, d)).toList := by
    rw [← Table.map_filter_key h.distinct, ← hkeys]
    unfold summariesOf ofEpoch
    rw [List.filter_map]
    exact ((List.mergeSort_perm _ _).filter _).map Prod.snd
  rcases hget : s.summaries.get? (e, d) with _ | x <;> rw [hget] at hperm
  · exact hperm.eq_nil
  · exact List.perm_singleton.mp hperm

theorem Tallied.filter_putSummaries (h : s.Tallied)
    (hdistinct : (rows.map fun x => x.delegate).Nodup) {x : DelegatorSummary} (hx : x ∈ rows) :
    ((s.putSummaries rows).summariesOf x.epoch).filter (fun y => y.delegate = x.delegate) =
      [x] := by
  have hput : (s.putSummaries rows).Tallied := h.foldl_insert rows
  have hget : (s.putSummaries rows).summaries.get? (x.epoch, x.delegate) =
      (rows.filter fun y => (y.epoch, y.delegate) = (x.epoch, x.delegate)).getLast?.or
        (s.summaries.get? (x.epoch, x.delegate)) := Table.get?_foldl_insert_by _ _ _ _
  have hmem : x ∈ rows.filter fun y => (y.epoch, y.delegate) = (x.epoch, x.delegate) :=
    List.mem_filter.mpr ⟨hx, decide_eq_true rfl⟩
  rw [hput.filter_summariesOf, hget]
  rcases hlast : (rows.filter fun y => (y.epoch, y.delegate) = (x.epoch, x.delegate)).getLast?
    with _ | y
  · rw [List.getLast?_eq_none_iff.mp hlast] at hmem
    cases hmem
  · obtain ⟨hy, hkey⟩ := List.mem_filter.mp (List.mem_of_getLast? hlast)
    have hdelegate : y.delegate = x.delegate := congrArg Prod.snd (of_decide_eq_true hkey)
    obtain rfl : y = x := List.inj_on_of_nodup_map hdistinct hy hx hdelegate
    rw [hlast]
    rfl

/-- Every stored row of an epoch with power has one summary, that of the list of its delegators that
a service returned along requests. -/
def SummedUp {L : Type} [LedgerService L] (e : Epoch) (l : L) (qs : List Request) (s : Store) :
    Prop :=
  ∀ r ∈ s.snapshotsOf e, r.votingPower ≠ 0 →
    (s.summariesOf e).filter (fun x => x.delegate = r.delegate) =
      [.ofDelegators e r.delegate (returned r.delegate (some e) l qs)]

/-- If no lookup failed, the summaries of what was found sum up an epoch at whose rows the lookups
aimed. -/
theorem SummedUp.put {L : Type} [LedgerService L] {e : Epoch} {l : L} {qs : List Request}
    {found : List Found} {targets : List DelegateId} (h : s.Tallied)
    (hfound : (found.map fun x => x.delegate).Perm targets)
    (hreturned : Found.Returned (some e) l qs found) (hnone : Found.failures found = [])
    (htargets : ∀ r ∈ s.snapshotsOf e, r.votingPower ≠ 0 → r.delegate ∈ targets) :
    (s.putSummaries ((Found.successes found).map fun x => .ofDelegators e x.1 x.2)).SummedUp
      e l qs := by
  intro r hr hpower
  have hall := Found.delegates_perm found
  rw [hnone, List.map_nil, List.append_nil] at hall
  have hmem : r.delegate ∈ (Found.successes found).map Prod.fst :=
    hall.mem_iff.mpr (hfound.mem_iff.mpr (htargets r hr hpower))
  obtain ⟨⟨d, rows⟩, hx, hd⟩ := List.mem_map.mp hmem
  obtain rfl : d = r.delegate := hd
  obtain ⟨y, hy, hreply⟩ := List.mem_filterMap.mp hx
  have hrows : rows = returned r.delegate (some e) l qs := by
    rcases hok : y.reply with cause | rows' <;> rw [hok] at hreply
    · cases hreply
    · obtain ⟨hdelegate, rfl⟩ := Prod.mk.inj (Option.some.inj hreply)
      exact hdelegate ▸ hreturned.rows y hy rows' hok
  have hdistinct : (((Found.successes found).map fun x =>
      DelegatorSummary.ofDelegators e x.1 x.2).map fun x => x.delegate).Nodup := by
    rw [List.map_map]
    exact (hall.nodup_iff).mpr hreturned.distinct
  rw [← hrows]
  exact h.filter_putSummaries hdistinct (List.mem_map_of_mem hx)

end Store

end GovernanceIndex
