import GovernanceIndex.Proofs.Ledger.Answers
import GovernanceIndex.Proofs.Sync.ChangeLog
import Mathlib.Data.List.Nodup

/-!
A rule for cycles of the delegation sync. A cycle observes and then reconciles the store with what
it observed, in commits: the replay of the history of one address without a state, or the difference
of one observed address. What every such commit keeps holds behind a cycle, whatever it came to; and
a cycle that ends leaves nothing to be written for any address that it observed and did not skip.
-/
namespace GovernanceIndex

theorem History.eq_nil_of_replay {a : StakeAddress} {us : List DelegationUpdate} (now : Timestamp)
    (h : (replay a us now).2 = none) : us = [] := by
  unfold replay lastState at h
  rw [Option.map_eq_none_iff, List.getLast?_eq_none_iff] at h
  exact List.length_eq_zero_iff.mp ((List.length_mergeSort us).symm.trans (congrArg List.length h))

namespace Store

/-- Two stores agree in their log, their states and their inventories. -/
structure SameLog (s s' : Store) : Prop where
  changes : s'.changes = s.changes
  states : s'.states = s.states
  snapshots : s'.snapshots = s.snapshots

instance : IsPreorder Store SameLog where
  refl _ := ⟨rfl, rfl, rfl⟩
  trans _ _ _ h h' := ⟨h'.changes.trans h.changes, h'.states.trans h.states,
    h'.snapshots.trans h.snapshots⟩

theorem SameData.sameLog {s s' : Store} (h : SameData s s') : SameLog s s' :=
  ⟨h.eq fun s => s.changes, h.eq fun s => s.states, h.eq fun s => s.snapshots⟩

theorem SameLog.changesOf {s s' : Store} (h : SameLog s s') (a : StakeAddress) :
    s'.changesOf a = s.changesOf a := by
  unfold Store.changesOf
  rw [h.changes]

theorem get?_replay {s : Store} {a : StakeAddress} (h : s.states.get? a = none)
    (us : List DelegationUpdate) (now : Timestamp) :
    (s.applyChanges (History.replay a us now).1 (History.replay a us now).2.toList).states.get? a =
      (History.replay a us now).2 := by
  change ((History.lastState a _).toList.foldl putState s.states).get? a = History.lastState a _
  unfold History.lastState
  rcases (DelegationUpdate.sort us).getLast? with _ | u
  · exact h
  · change (putState s.states _).get? a = _
    unfold putState
    rw [Table.get?_insert, if_pos rfl, h]
    rfl

end Store

open Store (SameLog)
open World (Serving)

/-- The histories that a service answers with have of every address what it is served. -/
def HistoriesServe (V : (q : Request) → q.Answer → Prop)
    (Served : StakeAddress → List DelegationUpdate → Prop) : Prop :=
  ∀ addresses hs, V (.histories addresses) hs →
    ∀ a ∈ addresses, Served a (DelegationHistory.of hs a)

/-- What a cycle keeps: its commits for the addresses that it observed keep it, where `Served` says
of an address which certificates the service may have for it. -/
structure CycleInvariant (epoch : Epoch) (observed : List (StakeAddress × Observation))
    (Served : StakeAddress → List DelegationUpdate → Prop) (I : Store → Prop) : Prop where
  sameLog : ∀ s s', SameLog s s' → I s → I s'
  replay : ∀ s now, I s → ∀ x ∈ observed, s.states.get? x.1 = none → ∀ us, Served x.1 us →
    I (s.applyChanges (History.replay x.1 us now).1 (History.replay x.1 us now).2.toList)
  differ : ∀ s now, I s → ∀ x ∈ observed, (s.states.get? x.1 = none → Served x.1 []) →
    ∀ d, Difference.of epoch now (s.states.get? x.1) x.1 x.2 = some d →
    I (s.applyChanges d.change.toList [d.state])

namespace Difference

variable {epoch : Epoch} {now : Timestamp} {s : Store} {d : Difference}
  {observed : List (StakeAddress × Observation)}
  {Served : StakeAddress → List DelegationUpdate → Prop} {I : Store → Prop}
  {skipped : List StakeAddress} {ds : List Difference}

theorem of_state {stored : Option DelegationState} {a : StakeAddress} {o : Observation}
    (h : of epoch now stored a o = some d) : d.state = o.state epoch a := by
  unfold of at h
  rcases stored with _ | x
  · exact (Option.some.inj h) ▸ rfl
  · dsimp only at h
    split at h
    · exact (Option.some.inj h) ▸ rfl
    · split at h
      · cases h
      · exact (Option.some.inj h) ▸ rfl

theorem of_change {stored : Option DelegationState} {a : StakeAddress} {o : Observation}
    (h : of epoch now stored a o = some d) : ∀ c ∈ d.change.toList,
    c.address = a ∧ c.target = o.delegate ∧ c.epoch = epoch ∧ c.amount = some o.amount := by
  unfold of at h
  rcases stored with _ | x
  · obtain rfl := Option.some.inj h
    simp
  · dsimp only at h
    split at h
    · obtain rfl := Option.some.inj h
      simp
    · split at h
      · cases h
      · obtain rfl := Option.some.inj h
        simp

theorem of_address {stored : Option DelegationState} {a : StakeAddress} {o : Observation}
    (h : of epoch now stored a o = some d) : d.state.address = a := by
  rw [of_state h]
  rfl

/-- The store has of an address just what was observed of it. -/
def Settled (epoch : Epoch) (o : Observation) (stored : Option DelegationState) : Prop :=
  ∃ x, stored = some x ∧ x.delegate = o.delegate ∧ x.amount = some o.amount ∧
    x.epochObserved = epoch

theorem of_eq_none_iff {stored : Option DelegationState} {a : StakeAddress} {o : Observation} :
    of epoch now stored a o = none ↔ Settled epoch o stored := by
  unfold of Settled
  rcases stored with _ | x
  · simp
  · by_cases hdelegate : x.delegate = o.delegate <;>
      by_cases hsame : x.amount = some o.amount ∧ x.epochObserved = epoch <;>
      simp [hdelegate, hsame, Observation.state]

theorem settled_state {a : StakeAddress} {o : Observation} :
    Settled epoch o (some (o.state epoch a)) := ⟨_, rfl, rfl, rfl, rfl⟩

theorem get?_apply {x : StakeAddress × Observation}
    (h : of epoch now (s.states.get? x.1) x.1 x.2 = some d) :
    (s.applyChanges d.change.toList [d.state]).states.get? x.1 = some d.state := by
  rw [of_state h]
  change (Store.putState s.states (x.2.state epoch x.1)).get? (x.2.state epoch x.1).address = _
  unfold Store.putState
  rw [Table.get?_insert, if_pos rfl]
  rfl

theorem get?_apply_of_ne {a : StakeAddress} (h : a ≠ d.state.address) :
    (s.applyChanges d.change.toList [d.state]).states.get? a = s.states.get? a :=
  s.applyChanges_states_of_ne d.change.toList (x := some d.state)
    (fun _ hy => Option.some.inj hy ▸ rfl) h

/-- Differences of observed addresses that are to be written, beside which nothing is to be written
for any address but those to be skipped. -/
structure Due (epoch : Epoch) (now : Timestamp) (observed : List (StakeAddress × Observation))
    (Served : StakeAddress → List DelegationUpdate → Prop) (skipped : List StakeAddress)
    (ds : List Difference) (s : Store) : Prop where
  distinct : (ds.map fun d => d.state.address).Nodup
  due : ∀ d ∈ ds, ∃ x ∈ observed, (s.states.get? x.1 = none → Served x.1 []) ∧
    of epoch now (s.states.get? x.1) x.1 x.2 = some d
  rest : ∀ x ∈ observed, x.1 ∉ skipped → Settled epoch x.2 (s.states.get? x.1) ∨
    ∃ d ∈ ds, of epoch now (s.states.get? x.1) x.1 x.2 = some d

theorem all_due {stored : StakeAddress → Option DelegationState}
    (hnodup : (observed.map Prod.fst).Nodup)
    (hstored : ∀ a ∈ observed.map Prod.fst, stored a = s.states.get? a)
    (hserved : ∀ x ∈ observed, x.1 ∉ skipped → s.states.get? x.1 = none → Served x.1 []) :
    Due epoch now observed Served skipped (all epoch now stored skipped observed) s := by
  have hof {x : StakeAddress × Observation} (hx : x ∈ observed) (d : Difference) :
      (if skipped.contains x.1 then none else of epoch now (stored x.1) x.1 x.2) = some d ↔
        x.1 ∉ skipped ∧ of epoch now (s.states.get? x.1) x.1 x.2 = some d := by
    rw [hstored _ (List.mem_map_of_mem hx)]
    by_cases hmem : x.1 ∈ skipped <;> simp [hmem]
  constructor
  · unfold all
    rw [List.Nodup, List.pairwise_map, List.pairwise_filterMap]
    refine (List.pairwise_map.mp hnodup).imp_of_mem fun hx hy hne d hd e he => ?_
    rw [of_address ((hof hx d).mp hd).2, of_address ((hof hy e).mp he).2]
    exact hne
  · intro d hd
    obtain ⟨x, hx, hxd⟩ := List.mem_filterMap.mp hd
    obtain ⟨hnot, hsome⟩ := (hof hx d).mp hxd
    exact ⟨x, hx, hserved x hx hnot, hsome⟩
  · intro x hx hnot
    rcases hd : of epoch now (s.states.get? x.1) x.1 x.2 with _ | d
    · exact .inl (of_eq_none_iff.mp hd)
    · exact .inr ⟨d, List.mem_filterMap.mpr ⟨x, hx, (hof hx d).mpr ⟨hnot, hd⟩⟩, rfl⟩

theorem Due.tail (hnodup : (observed.map Prod.fst).Nodup)
    (h : Due epoch now observed Served skipped (d :: ds) s) :
    Due epoch now observed Served skipped ds (s.applyChanges d.change.toList [d.state]) := by
  obtain ⟨hnot, hdistinct⟩ := List.nodup_cons.mp h.distinct
  obtain ⟨y, hy, -, hyd⟩ := h.due d List.mem_cons_self
  have hother {e : Difference} (he : e ∈ ds) : e.state.address ≠ d.state.address :=
    fun heq => hnot (List.mem_map.mpr ⟨e, he, heq⟩)
  refine ⟨hdistinct, fun e he => ?_, fun x hx hskipped => ?_⟩
  · obtain ⟨x, hx, hserved, hxe⟩ := h.due e (List.mem_cons_of_mem d he)
    have hget := get?_apply_of_ne (s := s) (of_address hxe ▸ hother he)
    exact ⟨x, hx, hget ▸ hserved, hget ▸ hxe⟩
  · by_cases haddress : x.1 = d.state.address
    · obtain rfl : x = y :=
        List.inj_on_of_nodup_map hnodup hx hy (haddress.trans (of_address hyd))
      left
      rw [get?_apply hyd, of_state hyd]
      exact settled_state
    · rw [get?_apply_of_ne haddress]
      rcases h.rest x hx hskipped with hsettled | ⟨e, he, hxe⟩
      · exact .inl hsettled
      · rcases List.mem_cons.mp he with rfl | he
        · exact absurd (of_address hxe).symm haddress
        · exact .inr ⟨e, he, hxe⟩

/-- Writing a batch of differences keeps what a cycle keeps and leaves the other ones due. -/
theorem Due.batch (hI : CycleInvariant epoch observed Served I)
    (hnodup : (observed.map Prod.fst).Nodup) {batch : List Difference}
    (h : Due epoch now observed Served skipped (batch ++ ds) s) (hs : I s) :
    let s' := s.applyChanges (batch.filterMap fun d => d.change) (batch.map fun d => d.state)
    I s' ∧ Due epoch now observed Served skipped ds s' := by
  -- A batch is written at once, but as if its differences were written one after the other.
  induction batch generalizing s with
  | nil =>
    simp only [List.filterMap_nil, List.map_nil, Store.applyChanges, List.append_nil,
      List.foldl_nil]
    exact ⟨hs, h⟩
  | cons d batch ih =>
    have happly : s.applyChanges ((d :: batch).filterMap fun d => d.change)
          ((d :: batch).map fun d => d.state) =
        (s.applyChanges d.change.toList [d.state]).applyChanges
          (batch.filterMap fun d => d.change) (batch.map fun d => d.state) := by
      rw [← Store.applyChanges_append, List.filterMap_cons]
      cases d.change <;> rfl
    rw [happly]
    obtain ⟨x, hx, hserved, hxd⟩ := h.due d List.mem_cons_self
    exact ih (h.tail hnodup) (hI.differ s now hs x hx hserved d hxd)

end Difference

open Difference (Due Settled)

/-- The store in the middle of a backfill: addresses that had no state are done, and the states of
all others are as they were. One that is done and has no state had no certificates. -/
structure Backfilled (Served : StakeAddress → List DelegationUpdate → Prop) (I : Store → Prop)
    (states : Table StakeAddress DelegationState) (done : List StakeAddress) (s : Store) :
    Prop where
  kept : I s
  fresh : ∀ a ∈ done, states.get? a = none
  others : ∀ a, a ∉ done → s.states.get? a = states.get? a
  served : ∀ a ∈ done, s.states.get? a = none → Served a []

namespace Backfilled

variable {epoch : Epoch} {observed : List (StakeAddress × Observation)}
  {Served : StakeAddress → List DelegationUpdate → Prop} {I : Store → Prop}
  {states : Table StakeAddress DelegationState} {done : List StakeAddress} {s s' : Store}

theorem sameLog (hI : CycleInvariant epoch observed Served I)
    (h : Backfilled Served I states done s) (hs : SameLog s s') :
    Backfilled Served I states done s' := by
  obtain ⟨hkept, hfresh, hothers, hserved⟩ := h
  exact ⟨hI.sameLog s s' hs hkept, hfresh, hs.states ▸ hothers, hs.states ▸ hserved⟩

theorem commit (hI : CycleInvariant epoch observed Served I)
    (h : Backfilled Served I states done s) {a : StakeAddress} (ha : a ∉ done)
    (hobserved : a ∈ observed.map Prod.fst) (hnew : states.get? a = none)
    {us : List DelegationUpdate} (hus : Served a us) (now : Timestamp) (cursor : BackfillCursor) :
    Backfilled Served I states (done ++ [a]) (s.applyBackfill (History.replay a us now).1
      (History.replay a us now).2 cursor) := by
  obtain ⟨x, hx, rfl⟩ := List.mem_map.mp hobserved
  obtain ⟨-, hstate⟩ := History.replay_address x.1 us now
  have hother {b : StakeAddress} (hb : b ≠ x.1) :
      (s.applyBackfill (History.replay x.1 us now).1 (History.replay x.1 us now).2
        cursor).states.get? b = s.states.get? b :=
    s.applyChanges_states_of_ne (History.replay x.1 us now).1 hstate hb
  constructor
  · have hreplayed := hI.replay s now h.kept x hx ((h.others x.1 ha).trans hnew) us hus
    refine hI.sameLog _ _ ?_ hreplayed
    exact ⟨rfl, rfl, rfl⟩
  · intro b hb
    rcases List.mem_append.mp hb with hb | hb
    · exact h.fresh b hb
    · obtain rfl := List.mem_singleton.mp hb
      exact hnew
  · intro b hb
    simp only [List.mem_append, List.mem_singleton, not_or] at hb
    exact (hother hb.2).trans (h.others b hb.1)
  · intro b hb hnone
    by_cases hbx : b = x.1
    · subst hbx
      have hreplay := Store.get?_replay ((h.others x.1 ha).trans hnew) us now
      rw [← History.eq_nil_of_replay now (hreplay.symm.trans hnone)]
      exact hus
    · rw [hother hbx] at hnone
      have hmem : b ∈ done := by simpa [hbx] using hb
      exact h.served b hmem hnone

/-- What was read before a backfill and what is read of its addresses after it say together what
the store holds. -/
theorem lookup (h : Backfilled Served I states done s) (a : StakeAddress) :
    (if a ∈ done then s.states.get? a else none).or (states.get? a) = s.states.get? a := by
  split
  · next ha => rw [h.fresh a ha, Option.or_none]
  · next ha => rw [h.others a ha, Option.none_or]

/-- Behind a backfill of the addresses that were read without a state, the differences from what was
read before it and after it are due. -/
theorem due (h : Backfilled Served I states done s) (hnodup : (observed.map Prod.fst).Nodup)
    {stored found : Table StakeAddress DelegationState} {skipped : List StakeAddress}
    (hstored : ∀ a ∈ observed.map Prod.fst, stored.get? a = states.get? a)
    (hfound : ∀ a, found.get? a = if a ∈ done then s.states.get? a else none)
    (hall : done ++ skipped = (observed.map Prod.fst).filter fun a => (stored.get? a).isNone)
    (now : Timestamp) :
    Due epoch now observed Served skipped (Difference.all epoch now
      (fun a => (found.get? a).or (stored.get? a)) skipped observed) s := by
  apply Difference.all_due hnodup
  · intro a ha
    rw [hfound, hstored a ha]
    exact h.lookup a
  · intro x hx hnot hnone
    have hmem : x.1 ∈ observed.map Prod.fst := List.mem_map_of_mem hx
    by_cases hdone : x.1 ∈ done
    · exact h.served x.1 hdone hnone
    · have hnew : x.1 ∈ done ++ skipped := by
        rw [hall, List.mem_filter, hstored x.1 hmem, ← h.others x.1 hdone, hnone]
        exact ⟨hmem, rfl⟩
      exact absurd hnew (by simp [hdone, hnot])

end Backfilled

namespace Run

variable {L α : Type} {epoch : Epoch} {observed : List (StakeAddress × Observation)}
  {Served : StakeAddress → List DelegationUpdate → Prop} {I : Store → Prop}
  {states : Table StakeAddress DelegationState} {done : List StakeAddress}

theorem Moves.backfilled (hI : CycleInvariant epoch observed Served I) {m : Run L α}
    (h : Moves SameLog m) :
    Ensures (Backfilled Served I states done) m (fun _ => Backfilled Served I states done) I := by
  have hkept : Ensures (Backfilled Served I states done) m
      (fun _ => Backfilled Served I states done) (Backfilled Served I states done) :=
    h.ensures fun _ _ hs hbackfilled => hbackfilled.sameLog hI hs
  exact hkept.mono (fun _ => id) (fun _ _ => id) fun _ hs => hs.kept

theorem backfillBatch_ensures (hI : CycleInvariant epoch observed Served I) (job : String)
    (total : UInt64) {histories : Table StakeAddress (List DelegationUpdate)} (before : UInt64)
    (b : Backfill) {addresses : List StakeAddress} (hnodup : (b.processed ++ addresses).Nodup)
    (hnew : ∀ a ∈ addresses, a ∈ observed.map Prod.fst ∧ states.get? a = none)
    (hserved : ∀ a ∈ addresses, Served a ((histories.get? a).getD [])) :
    Ensures (Backfilled Served I states b.processed)
      (backfillBatch job total histories before b addresses : Run L Backfill)
      (fun b' s => (b'.processed = b.processed ++ addresses ∧ b'.skipped = b.skipped) ∧
        Backfilled Served I states b'.processed s) I := by
  induction addresses generalizing before b with
  | nil => exact Ensures.pure fun s hs => ⟨⟨(List.append_nil b.processed).symm, rfl⟩, hs⟩
  | cons a rest ih =>
    obtain ⟨⟨hobserved, hnewa⟩, hnewrest⟩ := List.forall_mem_cons.mp hnew
    obtain ⟨hserveda, hservedrest⟩ := List.forall_mem_cons.mp hserved
    have hsplit : b.processed ++ a :: rest = (b.processed ++ [a]) ++ rest := by simp
    have ha : a ∉ b.processed := by
      intro hmem
      obtain ⟨-, -, hdisjoint⟩ := List.nodup_append.mp hnodup
      exact hdisjoint a hmem a List.mem_cons_self rfl
    rw [hsplit] at hnodup ⊢
    unfold backfillBatch
    apply Ensures.getBind
    intro w
    apply Ensures.bind (Q := fun _ => Backfilled Served I states (b.processed ++ [a]))
    · apply Ensures.callTo fun _ => rfl
      · exact fun s hs => hs.commit hI ha hobserved hnewa hserveda _ _
      · exact fun s hs => hs.kept
    · intro _
      exact ih (before + 1) { b with processed := b.processed ++ [a], changes := _ } hnodup
        hnewrest hservedrest

theorem Moves.clearCursor (job : String) :
    Moves SameLog (Run.call (.clearCursor job) : Run L Unit) :=
  Moves.callTo (fun _ => rfl) fun _ => ⟨rfl, rfl, rfl⟩

theorem Moves.markBackfillDone (job : String) (now : Timestamp) :
    Moves SameLog (Run.call (.markBackfillDone job now) : Run L Unit) :=
  Moves.callTo (fun _ => rfl) fun _ => ⟨rfl, rfl, rfl⟩

theorem backfilledStates_ensures (b : Backfill) :
    Ensures (Backfilled Served I states b.processed)
      (backfilledStates b : Run L (Table StakeAddress DelegationState))
      (fun found s => (∀ a, found.get? a = if a ∈ b.processed then s.states.get? a else none) ∧
        Backfilled Served I states b.processed s) I := by
  unfold backfilledStates
  split
  · next hempty =>
    intro w hw
    rw [List.isEmpty_iff] at hempty
    exact ⟨fun a => by simp [hempty], hw⟩
  · apply Ensures.callTo fun _ => rfl
    · exact fun s hs => ⟨s.statesOf_get? b.processed, hs⟩
    · exact fun s hs => hs.kept

theorem writeBatches_ensures (hI : CycleInvariant epoch observed Served I)
    (hnodup : (observed.map Prod.fst).Nodup) (now : Timestamp) (skipped : List StakeAddress)
    (batches : List (List Difference)) :
    Ensures (fun s => I s ∧ Due epoch now observed Served skipped batches.flatten s)
      (batches.forM fun batch =>
        call (.applyChanges (batch.filterMap fun d => d.change) (batch.map fun d => d.state)) :
          Run L Unit)
      (fun _ s => I s ∧ Due epoch now observed Served skipped [] s) I := by
  induction batches with
  | nil => exact Ensures.pure fun _ => id
  | cons batch rest ih =>
    unfold List.forM
    apply Ensures.bind _ fun _ => ih
    apply Ensures.callTo fun _ => rfl
    · rintro s ⟨hs, hdue⟩
      exact hdue.batch hI hnodup hs
    · exact fun s hs => hs.1

variable [LedgerService L] {V : (q : Request) → q.Answer → Prop}

theorem Reads.fullBackfill : Reads (Run.fullBackfill : Run L (Bool × Option BackfillCursor)) := by
  apply Shifts.bind (Passes.call rfl).reads
  intro isDone
  apply Shifts.bind (Passes.call rfl).reads
  intro cursor
  split
  · exact Shifts.pure _
  · split
    · exact Shifts.pure _
    · exact Shifts.bind (Passes.call rfl).reads fun _ => Shifts.pure _

theorem Reads.quotaIsLow (c : Settings) : Reads (Run.quotaIsLow c : Run L Bool) :=
  Shifts.getBind fun _ => Shifts.pure _

theorem Reads.backfilled (hI : CycleInvariant epoch observed Served I) {m : Run L α}
    (h : Reads m) :
    Triple (Serving V (Backfilled Served I states done)) m
      (fun _ => Serving V (Backfilled Served I states done)) (fun w => I w.store) :=
  (Moves.backfilled hI (h.moves fun _ _ hs => hs.sameLog)).serving h.requests

theorem backfillBatch_requests (job : String) (total : UInt64)
    (histories : Table StakeAddress (List DelegationUpdate)) (before : UInt64) (b : Backfill)
    (addresses : List StakeAddress) :
    Requests (backfillBatch job total histories before b addresses : Run L Backfill) := by
  induction addresses generalizing before b with
  | nil => exact Shifts.pure b
  | cons a rest ih =>
    exact Shifts.getBind fun w => Shifts.bind (Requests.call _) fun _ => ih _ _

theorem backfillBatches_triple (hI : CycleInvariant epoch observed Served I)
    (hV : HistoriesServe V Served)
    (c : Settings) (job : String) (total before : UInt64) (b : Backfill)
    {batches : List (List StakeAddress)} (hnodup : (b.processed ++ batches.flatten).Nodup)
    (hnew : ∀ a ∈ batches.flatten, a ∈ observed.map Prod.fst ∧ states.get? a = none)
    (hskipped : b.skipped = []) :
    Triple (Serving V (Backfilled Served I states b.processed))
      (backfillBatches c job total before b batches : Run L Backfill)
      (fun b' w => b'.processed ++ b'.skipped = b.processed ++ batches.flatten ∧
        Serving V (Backfilled Served I states b'.processed) w) (fun w => I w.store) := by
  -- A quota that runs low ends the backfill in front of a batch, with what is done so far.
  induction batches generalizing before b with
  | nil => exact Triple.pure fun w hw => ⟨by rw [hskipped, List.flatten_nil], hw⟩
  | cons batch rest ih =>
    rw [List.flatten_cons] at hnodup hnew
    obtain ⟨hnewbatch, hnewrest⟩ := List.forall_mem_append.mp hnew
    unfold backfillBatches
    apply Triple.bind ((Reads.quotaIsLow c).backfilled hI)
    intro low
    split
    · exact Triple.pure fun w hw => ⟨rfl, hw⟩
    · have hrequest := request_serving (L := L) (V := V)
        (P := Backfilled Served I states b.processed)
        (fun s s' hs hbackfilled => hbackfilled.sameLog hI hs.sameLog) c (.histories batch)
      apply Triple.bind (hrequest.mono (fun _ => id) (fun _ _ => And.symm) fun _ hw => hw.kept)
      intro histories
      apply Triple.assuming
      intro hanswered
      have hsub : (b.processed ++ batch).Nodup := by
        rw [← List.append_assoc] at hnodup
        exact (List.nodup_append.mp hnodup).1
      have hbatch := backfillBatch_ensures (L := L) hI job total before b hsub hnewbatch
        (hV batch histories hanswered)
      apply Triple.bind (hbatch.serving (backfillBatch_requests job total _ before b batch))
      intro (b' : Backfill)
      rintro w ⟨hanswers, ⟨hprocessed, hsame⟩, hbackfilled⟩
      have hnodup' : (b'.processed ++ rest.flatten).Nodup := by
        rw [hprocessed, List.append_assoc]
        exact hnodup
      have hrest := ih (before + UInt64.ofNat batch.length) b' hnodup' hnewrest
        (hsame.trans hskipped)
      rw [List.flatten_cons, ← List.append_assoc, ← hprocessed]
      exact hrest w ⟨hanswers, hbackfilled⟩

theorem backfill_triple (hI : CycleInvariant epoch observed Served I)
    (hV : HistoriesServe V Served)
    (c : Settings) (job : String) {addresses : List StakeAddress} (cursor : Option BackfillCursor)
    (hnodup : addresses.Nodup)
    (hnew : ∀ a ∈ addresses, a ∈ observed.map Prod.fst ∧ states.get? a = none) :
    Triple (Serving V (Backfilled Served I states []))
      (backfill c job addresses cursor : Run L Backfill)
      (fun b w => b.processed ++ b.skipped = addresses ∧
        Serving V (Backfilled Served I states b.processed) w) (fun w => I w.store) := by
  unfold backfill
  dsimp only
  split
  · exact Triple.throw fun w hw => hw.2.kept
  · have hbatches := batches_flatten c.historyBatchSize addresses
    apply Triple.bind (backfillBatches_triple hI hV c job _ _ {} (by rw [hbatches]; exact hnodup)
      (by rw [hbatches]; exact hnew) rfl)
    intro b
    apply Triple.assuming
    intro hall
    replace hall : b.processed ++ b.skipped = addresses := hall.trans hbatches
    split
    · apply Triple.bind ((Moves.backfilled hI (Moves.clearCursor (L := L) job)).serving
        (Requests.call _))
      intro _
      split
      · apply Triple.getBind
        intro w
        apply Triple.bind (((Moves.backfilled hI (Moves.markBackfillDone (L := L) job w.now)).serving
          (Requests.call _)).pre fun _ hw => hw.2)
        intro _
        exact Triple.pure fun w hw => ⟨hall, hw⟩
      · exact Triple.pure fun w hw => ⟨hall, hw⟩
    · exact Triple.pure fun w hw => ⟨hall, hw⟩

theorem backfillNew_triple (hI : CycleInvariant epoch observed Served I)
    (hV : HistoriesServe V Served)
    (c : Settings) {addresses : List StakeAddress} (hnodup : addresses.Nodup)
    (hnew : ∀ a ∈ addresses, a ∈ observed.map Prod.fst ∧ states.get? a = none) :
    Triple (Serving V (Backfilled Served I states []))
      (backfillNew c addresses : Run L (Bool × Backfill))
      (fun r w => r.2.processed ++ r.2.skipped = addresses ∧
        Serving V (Backfilled Served I states r.2.processed) w) (fun w => I w.store) := by
  apply Triple.bind (Reads.fullBackfill.backfilled hI)
  intro (full, cursor)
  dsimp only
  split
  · apply Triple.bind (backfill_triple hI hV c _ cursor hnodup hnew)
    exact fun b => Triple.pure fun _ => id
  · split
    · next hempty => exact Triple.pure fun w hw => ⟨(List.isEmpty_iff.mp hempty).symm, hw⟩
    · apply Triple.bind ((Passes.call rfl).reads.backfilled hI)
      intro cursor
      apply Triple.bind (backfill_triple hI hV c _ cursor hnodup hnew)
      exact fun b => Triple.pure fun _ => id

/-- The first part of a cycle: its epoch, and the lookups of the delegates with voting power. -/
def observe (c : Settings) : Run L (Epoch × List Found) := do
  let epoch ← latestCompleted c
  let rows ← inventory c epoch
  let found ← Lookup.run c c.delegationConcurrency none (Inventory.targets rows)
  return (epoch, found)

theorem Reads.observe (c : Settings) : Reads (Run.observe c : Run L (Epoch × List Found)) := by
  apply Shifts.bind (Passes.latestCompleted c).reads
  intro epoch
  apply Shifts.bind (Reads.inventory c epoch)
  intro rows
  exact Shifts.bind (Passes.lookup c _ _ _).reads fun _ => Shifts.pure _

/-- The second part of a cycle: the store is brought in line with what the lookups came to. -/
def reconcile (c : Settings) (epoch : Epoch) (found : List Found) : Run L DelegationsReport := do
  let reports := Observation.reports found
  let observed := Observation.latest reports
  let addresses := observed.map Prod.fst
  let stored ← call (.states addresses)
  let new := addresses.filter fun a => (stored.get? a).isNone
  let (full, b) ← backfillNew c new
  let backfilled ← backfilledStates b
  let now := (← get).now
  let differences := Difference.all epoch now (fun a => (backfilled.get? a).or (stored.get? a))
    b.skipped observed
  writeDifferences c differences
  let changes := differences.countP fun d => d.change.isSome
  return {
    epoch
    observed := observed.length
    duplicateObservations := reports.length - observed.length
    newAddresses := new.length
    fullBackfill := full
    backfilled := b.processed.length
    backfillSkipped := b.skipped.length
    eventsRecorded := b.changes + changes
    statesRefreshed := differences.length - changes
    failedEntities := (Found.failures found).map fun f => (f.1, f.2.message) }

theorem syncDelegations_eq (c : Settings) :
    (syncDelegations c : Run L DelegationsReport) =
      observe c >>= fun o => reconcile c o.1 o.2 := by
  simp only [syncDelegations, observe, reconcile, bind_assoc, pure_bind]

theorem states_triple {w₀ : World L} (h : Serving V I w₀) (addresses : List StakeAddress) :
    Triple (fun w => w = w₀) (call (.states addresses) : Run L (Table StakeAddress DelegationState))
      (fun stored w => stored = w₀.store.statesOf addresses ∧
        Serving V (Backfilled Served I w₀.store.states []) w)
      (fun w => I w.store) := by
  obtain ⟨hanswers, hw₀⟩ := h
  have hread : Ensures (fun s => s = w₀.store)
      (call (.states addresses) : Run L (Table StakeAddress DelegationState))
      (fun stored s => stored = w₀.store.statesOf addresses ∧
        Backfilled Served I w₀.store.states [] s) I := by
    apply Ensures.callTo fun _ => rfl
    · rintro s rfl
      exact ⟨rfl, hw₀, by simp, by simp, by simp⟩
    · rintro s rfl
      exact hw₀
  apply (hread.serving (V := V) (Requests.call _)).mono
  · rintro w rfl
    exact ⟨hanswers, rfl⟩
  · rintro stored w ⟨hanswers, hstored, hw⟩
    exact ⟨hstored, hanswers, hw⟩
  · exact fun _ => id

/-- What a cycle keeps holds behind its second part, whatever that comes to; and if it ends, every
observed address is settled but those that it skipped. -/
theorem reconcile_triple (c : Settings) (found : List Found)
    (hI : CycleInvariant epoch (Observation.latest (Observation.reports found)) Served I)
    (hV : HistoriesServe V Served) :
    Triple (Serving V I) (reconcile c epoch found : Run L DelegationsReport)
      (fun report w => I w.store ∧ ∃ skipped : List StakeAddress,
        report.backfillSkipped = skipped.length ∧
        ∀ x ∈ Observation.latest (Observation.reports found), x.1 ∉ skipped →
          Settled epoch x.2 (w.store.states.get? x.1))
      (fun w => I w.store) := by
  have hnodup := Observation.latest_nodup (Observation.reports found)
  unfold reconcile
  dsimp only
  generalize Observation.latest (Observation.reports found) = observed at hI hnodup ⊢
  -- From here on the states that the cycle read are those of a store with a name.
  apply Triple.naming
  intro w₀ hw₀
  apply Triple.bind (states_triple hw₀ (observed.map Prod.fst))
  intro stored
  apply Triple.assuming
  intro hstored
  have hread (a : StakeAddress) (ha : a ∈ observed.map Prod.fst) :
      stored.get? a = w₀.store.states.get? a := by
    rw [hstored, Store.statesOf_get?, if_pos ha]
  have hnew (a : StakeAddress) (ha : a ∈ (observed.map Prod.fst).filter fun a =>
      (stored.get? a).isNone) : a ∈ observed.map Prod.fst ∧ w₀.store.states.get? a = none := by
    obtain ⟨hmem, hnone⟩ := List.mem_filter.mp ha
    rw [hread a hmem, Option.isNone_iff_eq_none] at hnone
    exact ⟨hmem, hnone⟩
  apply Triple.bind (backfillNew_triple hI hV c (hnodup.filter _) hnew)
  rintro ⟨full, b⟩
  apply Triple.assuming
  intro hall
  have hstates : Ensures (Backfilled Served I w₀.store.states b.processed) _ _ I :=
    backfilledStates_ensures (L := L) b
  apply Triple.bind (Triple.pre hstates fun w hw => hw.2)
  intro backfilled
  apply Triple.getBind
  intro w
  dsimp only
  have hwrites := writeBatches_ensures (L := L) hI hnodup w.now b.skipped
    (batches c.writeBatchSize (Difference.all epoch w.now
      (fun a => (backfilled.get? a).or (stored.get? a)) b.skipped observed))
  apply Triple.bind (Triple.pre hwrites _)
  · intro _
    refine Triple.pure fun w hw => ⟨hw.1, b.skipped, rfl, fun x hx hnot => ?_⟩
    rcases hw.2.rest x hx hnot with hsettled | ⟨d, hd, -⟩
    · exact hsettled
    · cases hd
  · rintro w ⟨-, hfound, hw⟩
    rw [batches_flatten]
    exact ⟨hw.kept, hw.due hnodup hread hfound hall _⟩

end Run

end GovernanceIndex
