import GovernanceIndex.Proofs.Identifier
import GovernanceIndex.Proofs.Sync.LogOrder
import Mathlib.Data.List.Forall2
import Mathlib.Data.List.Rotate
import Mathlib.Data.List.SplitBy

/-!
A replayed history says of every epoch what the certificates say. There is one change for each run
of certificates for one delegate, so up to any epoch the last change and the last certificate name
the same delegate. Certificates with places of their own may come in any order.
-/
namespace GovernanceIndex

namespace DelegationUpdate

/-- A list is in chain order: it has the certificates that were given, by their places on the chain,
and those of one place as they came. -/
structure ChainOrdered (given sorted : List DelegationUpdate) : Prop where
  perm : sorted.Perm given
  ordered : sorted.Pairwise fun u v => u.place ≤ v.place
  stable : ∀ p, sorted.filter (fun u => u.place = p) = given.filter fun u => u.place = p

theorem sort_filter_place (us : List DelegationUpdate) (p : ℕ ×ₗ ℕ ×ₗ ℕ ×ₗ ℤ) :
    (sort us).filter (fun u => u.place = p) = us.filter fun u => u.place = p := by
  apply filter_mergeSort
  · exact fun _ _ _ => le_trans
  · exact DelegationUpdate.le_total
  · intro u v hu hv
    rw [le_iff, of_decide_eq_true hu, of_decide_eq_true hv]

theorem chainOrdered_sort (us : List DelegationUpdate) : ChainOrdered us (sort us) :=
  ⟨List.mergeSort_perm us le, sort_pairwise_place us, sort_filter_place us⟩

theorem sort_eq_of_perm {us vs : List DelegationUpdate} (h : vs.Perm us)
    (hplaces : (us.map place).Nodup) : sort vs = sort us := by
  have hperm : (sort vs).Perm (sort us) :=
    ((List.mergeSort_perm vs le).trans h).trans (List.mergeSort_perm us le).symm
  refine hperm.eq_of_pairwise ?_ (sort_pairwise_place vs) (sort_pairwise_place us)
  intro u v hu hv huv hvu
  have hu' : u ∈ us := h.mem_iff.mp (List.mem_mergeSort.mp hu)
  exact List.inj_on_of_nodup_map hplaces hu' (List.mem_mergeSort.mp hv) (le_antisymm huv hvu)

end DelegationUpdate

namespace History

variable (a : StakeAddress) (t : Timestamp)

/-- The changes along certificates are those along the first ones, and then those along the others
from the delegate that the first ones leave. -/
theorem changes_append (d : Option DelegateId) (us vs : List DelegationUpdate) :
    changes a t d (us ++ vs) =
      changes a t d us ++ changes a t ((us.getLast?.map fun u => u.delegate).or d) vs := by
  induction us generalizing d with
  | nil => rfl
  | cons u us ih =>
    have hlast : ((u :: us).getLast?.map fun u => u.delegate).or d =
        (us.getLast?.map fun u => u.delegate).or (some u.delegate) := by
      rw [List.getLast?_cons]
      cases us.getLast? <;> rfl
    rw [hlast, List.cons_append, changes, changes]
    split
    · next hd => rw [ih, hd]
    · rw [ih, List.cons_append]

theorem exists_epoch_split {us : List DelegationUpdate}
    (h : us.Pairwise fun u v => u.epoch.toNat ≤ v.epoch.toNat) (e : Epoch) :
    ∃ before after, us = before ++ after ∧ (∀ u ∈ before, u.epoch.le e = true) ∧
      ∀ u ∈ after, ¬ u.epoch.le e = true := by
  induction us with
  | nil => exact ⟨[], [], rfl, by simp, by simp⟩
  | cons u us ih =>
    obtain ⟨hfirst, hrest⟩ := List.pairwise_cons.mp h
    by_cases hu : u.epoch.le e = true
    · obtain ⟨before, after, rfl, hbefore, hafter⟩ := ih hrest
      exact ⟨u :: before, after, rfl, List.forall_mem_cons.mpr ⟨hu, hbefore⟩, hafter⟩
    · refine ⟨[], u :: us, rfl, by simp, List.forall_mem_cons.mpr ⟨hu, fun v hv hle => hu ?_⟩⟩
      exact decide_eq_true ((hfirst v hv).trans (of_decide_eq_true hle))

theorem changes_forall_epoch {d : Option DelegateId} {us : List DelegationUpdate}
    {P : Epoch → Prop} (h : ∀ u ∈ us, P u.epoch) : ∀ c ∈ changes a t d us, P c.epoch := by
  intro c hc
  have hepoch := (changes_epochs a t d us).subset (List.mem_map_of_mem hc)
  obtain ⟨u, hu, heq⟩ := List.mem_map.mp hepoch
  exact heq ▸ h u hu

theorem changes_last_upTo {us : List DelegationUpdate}
    (h : us.Pairwise fun u v => u.epoch.toNat ≤ v.epoch.toNat) (e : Epoch) :
    ((changes a t none us).filter fun c => c.epoch.le e).getLast?.map (fun c => c.target) =
      (us.filter fun u => u.epoch.le e).getLast?.map fun u => u.delegate := by
  obtain ⟨before, after, rfl, hbefore, hafter⟩ := exists_epoch_split h e
  let d := (before.getLast?.map fun u => u.delegate).or none
  have hchanges : ∀ c ∈ changes a t none before, c.epoch.le e = true :=
    changes_forall_epoch a t (P := fun epoch => epoch.le e = true) hbefore
  have hrest : ∀ c ∈ changes a t d after, ¬ c.epoch.le e = true :=
    changes_forall_epoch a t (P := fun epoch => ¬ epoch.le e = true) hafter
  have hlast := (changes_leads a t none before).last
  rw [Option.or_none, Option.or_none] at hlast
  rw [changes_append, List.filter_append, List.filter_append, List.filter_eq_self.mpr hbefore,
    List.filter_eq_self.mpr hchanges, List.filter_eq_nil_iff.mpr hafter,
    List.filter_eq_nil_iff.mpr hrest, List.append_nil, List.append_nil, hlast]

def agrees (u v : DelegationUpdate) : Bool := decide (u.delegate = v.delegate)

/-- The maximal runs of certificates for one delegate. -/
def runs (us : List DelegationUpdate) : List (List DelegationUpdate) := us.splitBy agrees

/-- A change is made by the first certificate of a run. -/
def Opens (c : DelegationChange) (run : List DelegationUpdate) : Prop :=
  ∃ u ∈ run.head?, c.target = u.delegate ∧ c.epoch = u.epoch

theorem changes_run {u : DelegationUpdate} {us : List DelegationUpdate}
    (h : (u :: us).IsChain fun u v => agrees u v = true)
    (rest : List DelegationUpdate) :
    changes a t (some u.delegate) (us ++ rest) =
      changes a t (some ((u :: us).getLast (List.cons_ne_nil u us)).delegate) rest := by
  induction us generalizing u with
  | nil => rfl
  | cons v us ih =>
    obtain ⟨huv, hus⟩ := List.isChain_cons_cons.mp h
    have hdelegate : u.delegate = v.delegate := of_decide_eq_true huv
    rw [List.cons_append, changes, if_pos (congrArg some hdelegate), hdelegate, ih hus,
      List.getLast_cons_cons]

/-- Runs of one delegate each, next to each other of different ones, make a change each. -/
theorem changes_flatten {d : Option DelegateId} {parts : List (List DelegationUpdate)}
    (hne : [] ∉ parts)
    (hparts : ∀ part ∈ parts, part.IsChain fun u v => agrees u v = true)
    (hturns : parts.IsChain fun part next =>
      ∃ hpart hnext, agrees (part.getLast hpart) (next.head hnext) = false)
    (hd : ∀ part ∈ parts.head?, ∀ u ∈ part.head?, d ≠ some u.delegate) :
    List.Forall₂ Opens (changes a t d parts.flatten) parts := by
  induction parts generalizing d with
  | nil => exact List.Forall₂.nil
  | cons part parts ih =>
    rcases part with _ | ⟨u, us⟩
    · exact absurd List.mem_cons_self hne
    · have hu : d ≠ some u.delegate := hd _ rfl u rfl
      rw [List.flatten_cons, List.cons_append, changes, if_neg hu,
        changes_run a t (hparts _ List.mem_cons_self)]
      refine List.Forall₂.cons ⟨u, rfl, rfl, rfl⟩ (ih ?_ ?_ hturns.tail ?_)
      · exact fun hmem => hne (List.mem_cons_of_mem _ hmem)
      · exact fun part hpart => hparts part (List.mem_cons_of_mem _ hpart)
      · intro next hnext v hv heq
        obtain ⟨_, hnil, hturn⟩ := (List.isChain_cons.mp hturns).1 next hnext
        rw [List.head_of_mem_head? hv] at hturn
        exact of_decide_eq_false hturn (Option.some.inj heq)

theorem changes_runs (us : List DelegationUpdate) :
    List.Forall₂ Opens (changes a t none us) (runs us) := by
  have h : List.Forall₂ Opens (changes a t none (runs us).flatten) (runs us) := by
    apply changes_flatten
    · exact List.nil_notMem_splitBy agrees us
    · exact fun part => List.isChain_of_mem_splitBy
    · exact List.isChain_getLast_head_splitBy agrees us
    · exact fun _ _ u _ => (Option.some_ne_none u.delegate).symm
  rwa [runs, List.flatten_splitBy] at h

theorem exists_change_upTo_iff {us : List DelegationUpdate}
    (h : us.Pairwise fun u v => u.epoch.toNat ≤ v.epoch.toNat) (e : Epoch) :
    (∃ c ∈ changes a t none us, c.epoch.le e) ↔ ∃ u ∈ us, u.epoch.le e := by
  have hsome := congrArg Option.isSome (changes_last_upTo a t h e)
  rw [Option.isSome_map, Option.isSome_map, Bool.eq_iff_iff, List.getLast?_isSome,
    List.getLast?_isSome] at hsome
  simpa using hsome

theorem replay_state_delegate (us : List DelegationUpdate) :
    (replay a us t).2.map (fun x => x.delegate) =
      (replay a us t).1.getLast?.map fun c => c.target := by
  have hlast := (replay_leads a us t).last
  rwa [Option.or_none] at hlast

theorem replay_state_eq_none_iff (us : List DelegationUpdate) :
    (replay a us t).2 = none ↔ us = [] := by
  unfold replay lastState
  rw [Option.map_eq_none_iff, List.getLast?_eq_none_iff, ← List.length_eq_zero_iff,
    DelegationUpdate.sort, List.length_mergeSort, List.length_eq_zero_iff]

/-- The changes of a replay tell the delegate at the end of every epoch, one for each run of
certificates for one delegate, and lead to the state. The order in which certificates come does not
matter if their places differ. -/
theorem replay_faithful (us : List DelegationUpdate) :
    let sorted := DelegationUpdate.sort us
    let events := (replay a us t).1
    let state := (replay a us t).2
    DelegationUpdate.ChainOrdered us sorted ∧
      (∀ e : Epoch,
        (events.filter fun c => c.epoch.le e).getLast?.map (fun c => c.target) =
            (sorted.filter fun u => u.epoch.le e).getLast?.map (fun u => u.delegate) ∧
          ((∃ c ∈ events, c.epoch.le e) ↔ ∃ u ∈ us, u.epoch.le e)) ∧
      (∀ c ∈ events.head?, c.source = none) ∧
      (events.IsChain fun earlier later => later.source = some earlier.target) ∧
      (∀ c ∈ events, c.source ≠ some c.target) ∧
      events.length = (runs sorted).length ∧
      (state = none ↔ us = []) ∧
      state.map (fun x => x.delegate) = events.getLast?.map (fun c => c.target) ∧
      state.map (fun x => x.epochObserved) = sorted.getLast?.map (fun u => u.epoch) ∧
      ∀ vs, vs.Perm us → (us.map DelegationUpdate.place).Nodup →
        replay a vs t = replay a us t := by
  intro sorted events state
  have hleads := replay_leads a us t
  have hupTo := changes_last_upTo a t (DelegationUpdate.sort_pairwise us)
  refine ⟨DelegationUpdate.chainOrdered_sort us, fun e => ⟨hupTo e, ?_⟩, hleads.head,
    hleads.isChain, hleads.moves, (changes_runs a t sorted).length_eq,
    replay_state_eq_none_iff a t us, replay_state_delegate a t us, ?_, ?_⟩
  · have hmem (u : DelegationUpdate) : u ∈ sorted ↔ u ∈ us := List.mem_mergeSort
    simp only [← hmem]
    exact exists_change_upTo_iff a t (DelegationUpdate.sort_pairwise us) e
  · exact Option.map_map ..
  · intro vs hperm hplaces
    unfold replay
    rw [DelegationUpdate.sort_eq_of_perm hperm hplaces]

open DelegationCycle (delegator firstDelegate secondDelegate) in
/-- Four certificates in three runs, two of them of one epoch, which come shuffled: the second
delegate is left again for the first. -/
theorem replay_faithful_shuffled :
    let us : List DelegationUpdate := [⟨firstDelegate, ⟨520⟩, 1, 0, 0⟩,
      ⟨firstDelegate, ⟨521⟩, 2, 0, 0⟩, ⟨secondDelegate, ⟨521⟩, 3, 0, 0⟩,
      ⟨firstDelegate, ⟨523⟩, 1, 0, 0⟩]
    let vs := us.rotate 2
    let events := (replay delegator us ⟨5, 0⟩).1
    vs.Perm us ∧ (us.map DelegationUpdate.place).Nodup ∧
      replay delegator vs ⟨5, 0⟩ = replay delegator us ⟨5, 0⟩ ∧
      events.map (fun c => (c.target, c.epoch)) =
        [(firstDelegate, ⟨520⟩), (secondDelegate, ⟨521⟩), (firstDelegate, ⟨523⟩)] ∧
      (events.filter fun c => c.epoch.le ⟨522⟩).getLast?.map (fun c => c.target) =
        some secondDelegate := by
  intro us vs events
  obtain ⟨-, hupTo, -, -, -, -, -, -, -, hany⟩ := replay_faithful delegator ⟨5, 0⟩ us
  have hperm : vs.Perm us := List.rotate_perm us 2
  have hplaces : (us.map DelegationUpdate.place).Nodup := by decide +kernel
  have hsorted : DelegationUpdate.sort us = us := List.mergeSort_of_pairwise (by decide +kernel)
  have hevents : events = changes delegator ⟨5, 0⟩ none us :=
    congrArg (changes delegator ⟨5, 0⟩ none) hsorted
  refine ⟨hperm, hplaces, hany vs hperm hplaces, ?_, (hupTo ⟨522⟩).1.trans ?_⟩
  · rw [hevents]
    decide +kernel
  · rw [hsorted]
    decide +kernel

end History

end GovernanceIndex
