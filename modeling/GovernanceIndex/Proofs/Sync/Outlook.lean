import GovernanceIndex.Proofs.Sync.CycleRule

/-!
What a cycle that runs to its end makes of an address. If the histories and the observations are
given, that depends on what the store has of the address only, and no commit of a cycle changes it.
-/
namespace GovernanceIndex

def DelegationChange.untimed (c : DelegationChange) : DelegationChange :=
  { c with recordedAt := ⟨0, 0⟩ }

/-- What the store has of an address, apart from the times of recording. -/
structure AddressRecord where
  state : Option DelegationState
  changes : List DelegationChange
  deriving DecidableEq, Repr

def Store.recordOf (s : Store) (a : StakeAddress) : AddressRecord :=
  ⟨s.states.get? a, (s.changesOf a).map DelegationChange.untimed⟩

open Difference (Settled)

theorem History.replay_untimed (a : StakeAddress) (us : List DelegationUpdate)
    (now now' : Timestamp) :
    (replay a us now).1.map DelegationChange.untimed =
      (replay a us now').1.map DelegationChange.untimed := by
  have hchanges (d : Option DelegateId) (us : List DelegationUpdate) :
      (changes a now d us).map DelegationChange.untimed =
        (changes a now' d us).map DelegationChange.untimed := by
    induction us generalizing d with
    | nil => rfl
    | cons u us ih =>
      rw [changes, changes]
      split
      · exact ih d
      · rw [List.map_cons, List.map_cons, ih]
        rfl
  exact hchanges none _

/-- A difference apart from the time of its change. -/
def Difference.untimed (d : Difference) : DelegationState × Option DelegationChange :=
  (d.state, d.change.map DelegationChange.untimed)

theorem Difference.of_untimed (epoch : Epoch) (now now' : Timestamp)
    (stored : Option DelegationState) (a : StakeAddress) (o : Observation) :
    (of epoch now stored a o).map untimed = (of epoch now' stored a o).map untimed := by
  unfold of
  rcases stored with _ | x
  · rfl
  · dsimp only
    split_ifs <;> rfl

namespace AddressRecord

/-- What becomes of an address when its history is replayed, which is done if it has no state. -/
def replayed (r : AddressRecord) (a : StakeAddress) (us : List DelegationUpdate) : AddressRecord :=
  match r.state with
  | some _ => r
  | none =>
    let (changes, state) := History.replay a us ⟨0, 0⟩
    ⟨state, r.changes ++ changes.map DelegationChange.untimed⟩

/-- What becomes of an address when its difference from what was observed is written. -/
def refreshed (r : AddressRecord) (epoch : Epoch) (x : StakeAddress × Observation) :
    AddressRecord :=
  match Difference.of epoch ⟨0, 0⟩ r.state x.1 x.2 with
  | some d => ⟨some d.state, r.changes ++ (d.change.map DelegationChange.untimed).toList⟩
  | none => r

/-- What a cycle that runs to its end makes of an address that it observes. -/
def outlook (r : AddressRecord) (epoch : Epoch) (x : StakeAddress × Observation)
    (us : List DelegationUpdate) : AddressRecord :=
  (r.replayed x.1 us).refreshed epoch x

variable {r : AddressRecord} {a : StakeAddress} {us : List DelegationUpdate} {epoch : Epoch}
  {x : StakeAddress × Observation}

theorem replayed_of_some (h : r.state.isSome) : r.replayed a us = r := by
  unfold replayed
  rcases hstate : r.state with _ | y
  · rw [hstate] at h
    cases h
  · rfl

theorem replayed_nil : r.replayed a [] = r := by
  rcases r with ⟨_ | y, changes⟩
  · simp [replayed, History.replay, DelegationUpdate.sort, History.changes, History.lastState]
  · rfl

theorem replayed_replayed : (r.replayed a us).replayed a us = r.replayed a us := by
  rcases hlast : (r.replayed a us).state with _ | y
  · rcases r with ⟨_ | y, changes⟩
    · have hnil : us = [] := History.eq_nil_of_replay ⟨0, 0⟩ hlast
      rw [hnil, replayed_nil, replayed_nil]
    · cases hlast
  · exact replayed_of_some (by rw [hlast]; rfl)

theorem outlook_replayed : (r.replayed x.1 us).outlook epoch x us = r.outlook epoch x us := by
  unfold outlook
  rw [replayed_replayed]

theorem settled_refreshed : Settled epoch x.2 (r.refreshed epoch x).state := by
  unfold refreshed
  rcases hd : Difference.of epoch ⟨0, 0⟩ r.state x.1 x.2 with _ | d
  · exact Difference.of_eq_none_iff.mp hd
  · show Settled epoch x.2 (some d.state)
    rw [Difference.of_state hd]
    exact Difference.settled_state

theorem outlook_of_settled (h : Settled epoch x.2 r.state) : r.outlook epoch x us = r := by
  obtain ⟨y, hstate, -⟩ := id h
  unfold outlook
  rw [replayed_of_some (by rw [hstate]; rfl), refreshed, Difference.of_eq_none_iff.mpr h]

theorem outlook_refreshed (h : r.state = none → us = []) :
    (r.refreshed epoch x).outlook epoch x us = r.outlook epoch x us := by
  rw [outlook_of_settled settled_refreshed]
  unfold outlook
  rcases hstate : r.state with _ | y
  · rw [h hstate, replayed_nil]
  · rw [replayed_of_some (by rw [hstate]; rfl)]

end AddressRecord

namespace Store

variable {s : Store} {epoch : Epoch} {now : Timestamp} {x : StakeAddress × Observation}

theorem recordOf_sameLog {s' : Store} (h : s.SameLog s') (a : StakeAddress) :
    s'.recordOf a = s.recordOf a := by
  unfold recordOf
  rw [h.states, h.changesOf]

theorem recordOf_applyChanges_of_ne {cs : List DelegationChange} {y : Option DelegationState}
    {a b : StakeAddress} (hcs : ∀ c ∈ cs, c.address = a) (hy : ∀ z ∈ y, z.address = a)
    (hb : b ≠ a) : (s.applyChanges cs y.toList).recordOf b = s.recordOf b := by
  unfold recordOf
  rw [applyChanges_changesOf_of_ne s _ hcs hb, applyChanges_states_of_ne s cs hy hb]

theorem recordOf_replay {a : StakeAddress} (us : List DelegationUpdate) (now : Timestamp)
    (hnone : s.states.get? a = none) :
    (s.applyChanges (History.replay a us now).1 (History.replay a us now).2.toList).recordOf a =
      (s.recordOf a).replayed a us := by
  obtain ⟨hchanges, -⟩ := History.replay_address a us now
  unfold recordOf AddressRecord.replayed
  rw [applyChanges_changesOf s _ hchanges, get?_replay hnone, hnone, List.map_append,
    History.replay_untimed a us now ⟨0, 0⟩]
  rfl

theorem recordOf_differ {d : Difference}
    (hd : Difference.of epoch now (s.states.get? x.1) x.1 x.2 = some d) :
    (s.applyChanges d.change.toList [d.state]).recordOf x.1 =
      (s.recordOf x.1).refreshed epoch x := by
  have huntimed := Difference.of_untimed epoch now ⟨0, 0⟩ (s.states.get? x.1) x.1 x.2
  rw [hd] at huntimed
  unfold recordOf AddressRecord.refreshed
  dsimp only
  rcases hd' : Difference.of epoch ⟨0, 0⟩ (s.states.get? x.1) x.1 x.2 with _ | d' <;>
    rw [hd'] at huntimed
  · cases huntimed
  · obtain ⟨hstate, hchange⟩ := Prod.mk.inj (Option.some.inj huntimed)
    rw [applyChanges_changesOf s _ fun c hc => (Difference.of_change hd c hc).1,
      Difference.get?_apply hd, List.map_append, hstate]
    dsimp only
    rw [← hchange]
    cases d.change <;> rfl

/-- What has become of a store in which a cycle that runs to its end would make of every address
what it would have made of it in the store at the start. -/
structure Outlook (epoch : Epoch) (observed : List (StakeAddress × Observation))
    (history : StakeAddress → List DelegationUpdate) (s₀ s : Store) : Prop where
  snapshots : s.snapshots = s₀.snapshots
  met : ∀ x ∈ observed, (s.recordOf x.1).outlook epoch x (history x.1) =
    (s₀.recordOf x.1).outlook epoch x (history x.1)
  others : ∀ a ∉ observed.map Prod.fst, s.recordOf a = s₀.recordOf a

namespace Outlook

variable {observed : List (StakeAddress × Observation)}
  {history : StakeAddress → List DelegationUpdate} {s₀ s' : Store}

/-- A commit for one observed address that keeps its outlook keeps them all. -/
theorem commit (h : Outlook epoch observed history s₀ s) (hnodup : (observed.map Prod.fst).Nodup)
    (hx : x ∈ observed) {cs : List DelegationChange} {y : Option DelegationState}
    (hcs : ∀ c ∈ cs, c.address = x.1) (hy : ∀ z ∈ y, z.address = x.1)
    (hkept : ((s.applyChanges cs y.toList).recordOf x.1).outlook epoch x (history x.1) =
      (s.recordOf x.1).outlook epoch x (history x.1)) :
    Outlook epoch observed history s₀ (s.applyChanges cs y.toList) := by
  refine ⟨h.snapshots, fun z hz => ?_, fun a ha => ?_⟩
  · by_cases hzx : z.1 = x.1
    · obtain rfl : z = x := List.inj_on_of_nodup_map hnodup hz hx hzx
      exact hkept.trans (h.met z hz)
    · rw [recordOf_applyChanges_of_ne hcs hy hzx]
      exact h.met z hz
  · have hne : a ≠ x.1 := fun heq => ha (heq ▸ List.mem_map_of_mem hx)
    rw [recordOf_applyChanges_of_ne hcs hy hne]
    exact h.others a ha

theorem sameLog (h : Outlook epoch observed history s₀ s) (hs : s.SameLog s') :
    Outlook epoch observed history s₀ s' := by
  refine ⟨hs.snapshots.trans h.snapshots, fun x hx => ?_, fun a ha => ?_⟩
  · rw [recordOf_sameLog hs]
    exact h.met x hx
  · rw [recordOf_sameLog hs]
    exact h.others a ha

/-- Every commit of a cycle keeps the outlook if the service serves the histories. -/
theorem cycleInvariant (epoch : Epoch) {observed : List (StakeAddress × Observation)}
    (hnodup : (observed.map Prod.fst).Nodup) (history : StakeAddress → List DelegationUpdate)
    (s₀ : Store) :
    CycleInvariant epoch observed (fun a us => us = history a)
      (Outlook epoch observed history s₀) := by
  constructor
  · exact fun s s' hs h => h.sameLog hs
  · rintro s now h x hx hnone us rfl
    obtain ⟨hchanges, hstate⟩ := History.replay_address x.1 (history x.1) now
    apply h.commit hnodup hx hchanges hstate
    rw [recordOf_replay _ now hnone, AddressRecord.outlook_replayed]
  · intro s now h x hx hserved d hd
    have hchange (c : DelegationChange) (hc : c ∈ d.change.toList) : c.address = x.1 :=
      (Difference.of_change hd c hc).1
    have hstate (y : DelegationState) (hy : y ∈ some d.state) : y.address = x.1 :=
      Option.some.inj hy ▸ Difference.of_address hd
    apply h.commit hnodup hx hchange hstate
    change ((s.applyChanges d.change.toList [d.state]).recordOf x.1).outlook epoch x _ = _
    rw [recordOf_differ hd, AddressRecord.outlook_refreshed fun hnone => (hserved hnone).symm]

/-- A store in which every observed address is settled has of every address what its outlook was at
the start. -/
theorem recordOf_eq (h : Outlook epoch observed history s₀ s) (h' : Outlook epoch observed history s₀ s')
    (hsettled : ∀ x ∈ observed, Settled epoch x.2 (s.states.get? x.1))
    (hsettled' : ∀ x ∈ observed, Settled epoch x.2 (s'.states.get? x.1)) (a : StakeAddress) :
    s.recordOf a = s'.recordOf a := by
  by_cases ha : a ∈ observed.map Prod.fst
  · obtain ⟨x, hx, rfl⟩ := List.mem_map.mp ha
    calc s.recordOf x.1
        = (s.recordOf x.1).outlook epoch x (history x.1) :=
          (AddressRecord.outlook_of_settled (hsettled x hx)).symm
      _ = (s₀.recordOf x.1).outlook epoch x (history x.1) := h.met x hx
      _ = (s'.recordOf x.1).outlook epoch x (history x.1) := (h'.met x hx).symm
      _ = s'.recordOf x.1 := AddressRecord.outlook_of_settled (hsettled' x hx)
  · rw [h.others a ha, h'.others a ha]

end Outlook

end Store

end GovernanceIndex
