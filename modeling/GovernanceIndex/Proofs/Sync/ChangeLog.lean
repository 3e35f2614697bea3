import GovernanceIndex.Proofs.Table
import GovernanceIndex.Sync.Delegations
import Mathlib.Data.List.Chain

/-!
The change log of an address as a way from delegate to delegate. A store is chained if the way of
every address ends at the delegate of its state. Handing an address over from its delegate to
another one, with the changes in between, keeps a store chained. A replayed history is such a way
from no delegate to the last one, and so is an observed difference from the delegate that the store
has, so that batches of either keep a store chained.
-/
namespace GovernanceIndex

namespace DelegationChange

/-- Changes that lead from one delegate to another: each starts at the delegate at which the one
before it ended, and ends at a different one. -/
def Leads : Option DelegateId → List DelegationChange → Option DelegateId → Prop
  | d, [], e => d = e
  | d, c :: cs, e => c.source = d ∧ d ≠ some c.target ∧ Leads (some c.target) cs e

namespace Leads

variable {d e f : Option DelegateId} {cs ds : List DelegationChange}

theorem append (h : Leads d cs e) (h' : Leads e ds f) : Leads d (cs ++ ds) f := by
  induction cs generalizing d with
  | nil =>
    obtain rfl : d = e := h
    exact h'
  | cons c cs ih =>
    obtain ⟨hsource, hmoves, htail⟩ := h
    exact ⟨hsource, hmoves, ih htail⟩

theorem head (h : Leads d cs e) : ∀ c ∈ cs.head?, c.source = d := by
  rcases cs with _ | ⟨c, cs⟩
  · simp
  · simpa using h.1

theorem isChain (h : Leads d cs e) :
    cs.IsChain fun earlier later => later.source = some earlier.target := by
  induction cs generalizing d with
  | nil => exact .nil
  | cons c cs ih =>
    obtain ⟨-, -, htail⟩ := h
    exact List.IsChain.cons (ih htail) htail.head

theorem moves (h : Leads d cs e) : ∀ c ∈ cs, c.source ≠ some c.target := by
  induction cs generalizing d with
  | nil => simp
  | cons c cs ih =>
    obtain ⟨hsource, hmoves, htail⟩ := h
    exact List.forall_mem_cons.mpr ⟨hsource ▸ hmoves, ih htail⟩

theorem last (h : Leads d cs e) : e = (cs.getLast?.map fun c => c.target).or d := by
  induction cs generalizing d with
  | nil =>
    obtain rfl : d = e := h
    rfl
  | cons c cs ih =>
    obtain ⟨-, -, htail⟩ := h
    rw [ih htail, List.getLast?_cons]
    cases cs.getLast? <;> rfl

end Leads

end DelegationChange

open DelegationChange (Leads)

namespace Store

def delegateOf (s : Store) (a : StakeAddress) : Option DelegateId :=
  (s.states.get? a).map fun x => x.delegate

/-- The changes of every address lead from no delegate to the delegate of its state. -/
def Chained (s : Store) : Prop := ∀ a, Leads none (s.changesOf a) (s.delegateOf a)

theorem putState_get?_of_ne (t : Table StakeAddress DelegationState) {x : DelegationState}
    {a : StakeAddress} (h : a ≠ x.address) : (putState t x).get? a = t.get? a := by
  unfold putState
  rw [Table.get?_insert, if_neg h]

theorem putState_delegate (t : Table StakeAddress DelegationState) (x : DelegationState) :
    ((putState t x).get? x.address).map (fun y => y.delegate) = some x.delegate := by
  unfold putState
  rw [Table.get?_insert, if_pos rfl]
  rfl

theorem applyChanges_append (s : Store) (cs ds : List DelegationChange)
    (xs ys : List DelegationState) :
    s.applyChanges (cs ++ ds) (xs ++ ys) = (s.applyChanges cs xs).applyChanges ds ys := by
  simp [applyChanges, List.foldl_append]

theorem applyChanges_changesOf_of_ne (s : Store) {cs : List DelegationChange}
    (xs : List DelegationState) {a b : StakeAddress} (hcs : ∀ c ∈ cs, c.address = a)
    (hb : b ≠ a) : (s.applyChanges cs xs).changesOf b = s.changesOf b := by
  have hnone : cs.filter (fun c => c.address = b) = [] := by
    rw [List.filter_eq_nil_iff]
    intro c hc hcb
    exact hb ((of_decide_eq_true hcb).symm.trans (hcs c hc))
  unfold changesOf applyChanges
  rw [List.filter_append, hnone, List.append_nil]

theorem applyChanges_changesOf (s : Store) {cs : List DelegationChange}
    (xs : List DelegationState) {a : StakeAddress} (hcs : ∀ c ∈ cs, c.address = a) :
    (s.applyChanges cs xs).changesOf a = s.changesOf a ++ cs := by
  have hall : cs.filter (fun c => c.address = a) = cs := by
    rw [List.filter_eq_self]
    intro c hc
    exact decide_eq_true (hcs c hc)
  unfold changesOf applyChanges
  rw [List.filter_append, hall]

theorem applyChanges_states_of_ne (s : Store) (cs : List DelegationChange)
    {x : Option DelegationState} {a b : StakeAddress} (hx : ∀ y ∈ x, y.address = a)
    (hb : b ≠ a) : (s.applyChanges cs x.toList).states.get? b = s.states.get? b := by
  rcases x with _ | y
  · rfl
  · exact putState_get?_of_ne _ (hx y rfl ▸ hb)

theorem applyChanges_delegateOf (s : Store) (cs : List DelegationChange)
    {x : Option DelegationState} {a : StakeAddress} (hx : ∀ y ∈ x, y.address = a) :
    (s.applyChanges cs x.toList).delegateOf a =
      (x.map fun y => y.delegate).or (s.delegateOf a) := by
  rcases x with _ | y
  · rfl
  · obtain rfl := hx y rfl
    exact putState_delegate s.states y

theorem Chained.handOver {s : Store} (h : s.Chained) {a : StakeAddress}
    {cs : List DelegationChange} {x : Option DelegationState} (hcs : ∀ c ∈ cs, c.address = a)
    (hx : ∀ y ∈ x, y.address = a)
    (hleads : Leads (s.delegateOf a) cs ((x.map fun y => y.delegate).or (s.delegateOf a))) :
    (s.applyChanges cs x.toList).Chained := by
  intro b
  by_cases hb : b = a
  · subst hb
    rw [applyChanges_changesOf s _ hcs, applyChanges_delegateOf s _ hx]
    exact (h b).append hleads
  · have hstate := applyChanges_states_of_ne s cs hx hb
    unfold delegateOf
    rw [applyChanges_changesOf_of_ne s _ hcs hb, hstate]
    exact h b

end Store

namespace History

theorem changes_leads (a : StakeAddress) (t : Timestamp) (d : Option DelegateId)
    (us : List DelegationUpdate) :
    Leads d (changes a t d us) ((us.getLast?.map fun u => u.delegate).or d) := by
  induction us generalizing d with
  | nil => rfl
  | cons u us ih =>
    have hlast : ((u :: us).getLast?.map fun u => u.delegate).or d =
        (us.getLast?.map fun u => u.delegate).or (some u.delegate) := by
      rw [List.getLast?_cons]
      cases us.getLast? <;> rfl
    rw [hlast, changes]
    split
    · next hd => exact hd ▸ ih d
    · next hd => exact ⟨rfl, hd, ih _⟩

theorem changes_address (a : StakeAddress) (t : Timestamp) (d : Option DelegateId)
    (us : List DelegationUpdate) : ∀ c ∈ changes a t d us, c.address = a := by
  induction us generalizing d with
  | nil => simp [changes]
  | cons u us ih =>
    rw [changes]
    split
    · exact ih d
    · exact List.forall_mem_cons.mpr ⟨rfl, ih _⟩

/-- A replay leads from no delegate to that of the last state, all for one address. -/
theorem replay_leads (a : StakeAddress) (us : List DelegationUpdate) (t : Timestamp) :
    Leads none (replay a us t).1 ((replay a us t).2.map fun x => x.delegate) := by
  have h := changes_leads a t none (DelegationUpdate.sort us)
  rw [Option.or_none] at h
  unfold replay lastState
  rw [Option.map_map]
  exact h

theorem replay_address (a : StakeAddress) (us : List DelegationUpdate) (t : Timestamp) :
    (∀ c ∈ (replay a us t).1, c.address = a) ∧ ∀ x ∈ (replay a us t).2, x.address = a := by
  refine ⟨changes_address a t none _, ?_⟩
  intro x hx
  obtain ⟨u, -, rfl⟩ := Option.map_eq_some_iff.mp hx
  rfl

end History

theorem Observation.latest_nodup (reports : List (StakeAddress × Observation)) :
    ((latest reports).map Prod.fst).Nodup := by
  have hperm := (List.mergeSort_perm (Inventory.latest reports).entries
    fun a b => a.1.le b.1).map Prod.fst
  exact hperm.nodup_iff.mpr (Inventory.latest_nodup reports)

namespace Difference

/-- A difference hands its address over from the delegate that the store has for it. -/
structure Fits (d : Difference) (s : Store) : Prop where
  address : ∀ c ∈ d.change, c.address = d.state.address
  leads : Leads (s.delegateOf d.state.address) d.change.toList (some d.state.delegate)

variable {epoch : Epoch} {now : Timestamp} {s : Store}

theorem of_fits {a : StakeAddress} {o : Observation} {d : Difference}
    (h : of epoch now (s.states.get? a) a o = some d) : d.state.address = a ∧ d.Fits s := by
  unfold of at h
  rcases hs : s.states.get? a with _ | x
  · simp only [hs] at h
    obtain rfl := Option.some.inj h
    exact ⟨rfl, by simp [Observation.state],
      by simp [Leads, Store.delegateOf, hs, Observation.state]⟩
  · simp only [hs] at h
    split at h
    · next hne =>
      obtain rfl := Option.some.inj h
      exact ⟨rfl, by simp [Observation.state],
        by simp [Leads, Store.delegateOf, hs, Observation.state, hne]⟩
    · next heq =>
      split at h
      · cases h
      · obtain rfl := Option.some.inj h
        have hsame : x.delegate = o.delegate := Decidable.not_not.mp heq
        exact ⟨rfl, by simp, by simp [Leads, Store.delegateOf, hs, Observation.state, hsame]⟩

theorem Fits.chained {d : Difference} (h : d.Fits s) (hs : s.Chained) :
    (s.applyChanges d.change.toList [d.state]).Chained :=
  hs.handOver (x := some d.state) (fun c hc => h.address c (by simpa using hc))
    (fun y hy => Option.some.inj hy ▸ rfl) h.leads

end Difference

end GovernanceIndex
