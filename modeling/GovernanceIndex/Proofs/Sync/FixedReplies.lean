import GovernanceIndex.Proofs.Sync.GivenReplies

/-!
Reading a service that gives every request one reply and names no quota, where nothing fails. A
cycle runs on in such a world as the replies and the data of the store say. A simulated service
without queued failures and without a quota is one.
-/
namespace GovernanceIndex

open LedgerService (Reacts)

/-- A world whose service replies in a fixed way and names no quota, in which no call of the store
meets a fault and time does not run out, with the data of a store and what is remembered. -/
structure World.Fixed {L : Type} [LedgerService L] (f : Replies) (s : Store) (k : JobCache)
    (w : World L) : Prop where
  replies : ∀ l, Reacts w.ledger l → ∀ q, (LedgerService.react l q).1 = f q
  quota : ∀ l, Reacts w.ledger l → LedgerService.quota l = none
  faultless : w.Faultless
  deadline : w.deadline = none
  data : s.SameData w.store
  cache : w.cache = k

open World (Fixed Replying)

variable {L α : Type} [LedgerService L] {f : Replies} {s : Store} {k : JobCache}

namespace World

variable {w : World L}

theorem fixed_eq : (Fixed f s k : World L → Prop) =
    Replying (fun l => LedgerService.quota l = none) False f s k := by
  funext w
  apply propext
  constructor
  · intro h
    exact ⟨fun l hl => ⟨h.replies l hl, h.quota l hl⟩, .inr ⟨h.faultless, h.deadline⟩, h.data,
      h.cache⟩
  · intro h
    obtain ⟨hfaultless, hdeadline⟩ := h.sound.resolve_left id
    exact ⟨fun l hl => (h.serves l hl).1, fun l hl => (h.serves l hl).2, hfaultless, hdeadline,
      h.data, h.cache⟩

theorem Fixed.here (h : w.Fixed f s k) : w.Fixed f w.store w.cache :=
  ⟨h.replies, h.quota, h.faultless, h.deadline, refl_of Store.SameData w.store, rfl⟩

theorem Fixed.ask (h : w.Fixed f s k) (q : Request) :
    (w.ask q).1 = f q ∧ (w.ask q).2.Fixed f s k := by
  rw [fixed_eq] at h ⊢
  exact h.ask q

theorem Fixed.advance (h : w.Fixed f s k) (time : Nat) : (w.advance time).Fixed f s k := by
  rw [fixed_eq] at h ⊢
  exact h.advance time

theorem Fixed.call (h : w.Fixed f s k) (c : StoreCall) {s' : Store}
    (hs : s'.SameData (w.call c).2.store) : (w.call c).2.Fixed f s' k := by
  rw [fixed_eq] at h ⊢
  exact h.call c hs

end World

namespace Run

/-- An action comes to a reply and keeps what holds. -/
def Yields (P : World L → Prop) (m : Run L α) (r : Except LedgerError α) : Prop :=
  Outcomes P m (fun a w => r = .ok a ∧ P w)
    (fun halt w => Replies.halting r = .error halt ∧ P w)

omit [LedgerService L] in
/-- Where nothing may fail, the halts of an action are those of its reply. -/
theorem Outcomes.certain {P : World L → Prop} {m : Run L α} {Q : α → World L → Prop}
    {E : Halt → World L → Prop} (h : Outcomes P m Q fun halt w => False ∨ E halt w) :
    Outcomes P m Q E := h.mono (fun _ => id) (fun _ _ => id) fun _ _ hE => hE.resolve_left id

theorem fixedRequest (c : Settings) (q : Request) :
    Yields (Fixed f s k) (request c q : Run L q.Answer) (f q) := by
  rw [World.fixed_eq]
  exact (givenRequest c q).certain

theorem fixedListing (c : Settings) (l : Listing) :
    Yields (Fixed f s k) (listing c l : Run L (List l.Row)) (f.rows c.pageSize l) := by
  rw [World.fixed_eq]
  exact (givenListing c l).certain

theorem fixedFetchInventory (c : Settings) (epoch : Epoch) :
    Yields (Fixed f s k) (fetchInventory c epoch : Run L (List DelegateSnapshot))
      (f.inventory c epoch) := by
  rw [World.fixed_eq]
  exact (givenFetchInventory c epoch).certain

/-- The lookups come to what the replies have, in the order in which they end. -/
theorem fixedLookup (c : Settings) (limit : Nat) (epoch : Option Epoch) (ids : List DelegateId) :
    Triple (Fixed f s k) (Lookup.run c limit epoch ids : Run L (List Found))
      (fun found w => found.Perm (f.found c.pageSize epoch ids) ∧ Fixed f s k w)
      fun _ => False := by
  rw [World.fixed_eq]
  exact givenLookup c limit epoch ids

theorem fixedWrite {c : StoreCall} {effect : Store → c.Result × Store}
    (hc : ∀ s : Store, s.perform c = .ok (effect s))
    (heffect : ∀ s v, Store.SameData s v → (effect s).2.SameData (effect v).2)
    {E : Halt → World L → Prop} :
    Outcomes (Fixed f s k) (call c : Run L c.Result) (fun _ => Fixed f (effect s).2 k) E := by
  rw [World.fixed_eq, World.fixed_eq]
  exact (givenCall hc (heffect s)).mono (fun _ => id) (fun _ _ hw => hw.2) fun _ _ => False.elim

theorem fixedRemember (epoch : Epoch) (rows : List DelegateSnapshot) {E : Halt → World L → Prop} :
    Outcomes (Fixed f s k) (rememberInventory epoch rows : Run L Unit)
      (fun _ => Fixed f s { k with inventories := k.inventories.insert epoch rows }) E := by
  rw [World.fixed_eq, World.fixed_eq]
  exact givenRemember epoch rows

theorem fixedKnownTip (c : Settings) :
    Outcomes (Fixed f s k) (knownTip c : Run L Epoch)
      (fun e w => f.knownTip k = .ok e ∧ Fixed f s { k with tip := some e } w)
      (fun halt w => Replies.halting (f.knownTip k) = .error halt ∧ Fixed f s k w) := by
  simp only [World.fixed_eq]
  exact (givenKnownTip c).certain

theorem fixedInventory (c : Settings) (epoch : Epoch) :
    Outcomes (Fixed f s k) (inventory c epoch : Run L (List DelegateSnapshot))
      (fun rows w => f.inventoryOver c s k epoch = .ok rows ∧ Fixed f s (k.recall epoch rows) w)
      (fun halt w => Replies.halting (f.inventoryOver c s k epoch) = .error halt ∧
        Fixed f s k w) := by
  simp only [World.fixed_eq]
  exact (givenInventory c epoch).certain

theorem fixedAim (c : Settings) :
    Outcomes (Fixed f s k) (aim c : Run L (Epoch × List DelegateId))
      (fun a w => f.observed c s k = .ok (a.1, f.found c.pageSize none a.2) ∧ ∃ k', Fixed f s k' w)
      (fun halt w => f.observed c s k = .error halt ∧ ∃ k', Fixed f s k' w) := by
  simp only [World.fixed_eq]
  exact (givenAim c).certain

/-- A cycle observes what the replies have, in the order in which its lookups end. -/
theorem fixedObserve (c : Settings) :
    Outcomes (Fixed f s k) (observe c : Run L (Epoch × List Found))
      (fun r w => (∃ found, f.observed c s k = .ok (r.1, found) ∧ r.2.Perm found) ∧
        ∃ k', Fixed f s k' w)
      (fun halt w => f.observed c s k = .error halt ∧ ∃ k', Fixed f s k' w) := by
  simp only [World.fixed_eq]
  exact (givenObserve c).certain

end Run

/-- The service has histories for any addresses, which have of each address its own. -/
def Replies.ServesHistories (f : Replies) (history : StakeAddress → List DelegationUpdate) : Prop :=
  ∀ addresses, ∃ hs, f (.histories addresses) = .ok hs ∧
    ∀ a ∈ addresses, DelegationHistory.of hs a = history a

namespace SimulatedLedger

variable {l l' : SimulatedLedger}

theorem react_eq (hqueue : l.queuedFailures = {}) (hquota : l.quota = none) (q : Request) :
    l.react q = (l.answer q, l) := by
  have hspend : l.spend q = l := by
    cases q with
    | histories addresses =>
      change { l with quota := l.quota.map (· - 1) } = l
      rw [hquota, Option.map_none, ← hquota]
    | _ => rfl
  unfold react
  rw [hqueue, hspend]
  rfl

/-- A simulated service without queued failures and without a quota stays as it is. -/
theorem reacts_eq (hqueue : l.queuedFailures = {}) (hquota : l.quota = none) (h : Reacts l l') :
    l' = l := by
  induction h with
  | refl => rfl
  | tail _ hstep ih =>
    obtain ⟨q, rfl⟩ := hstep
    subst ih
    exact congrArg Prod.snd (react_eq hqueue hquota q)

theorem fixed {w : World SimulatedLedger} (hqueue : w.ledger.queuedFailures = {})
    (hquota : w.ledger.quota = none) (hfaults : w.faults = {}) (hdeadline : w.deadline = none) :
    w.Fixed w.ledger.answer w.store w.cache where
  replies l hl q := by
    obtain rfl := reacts_eq hqueue hquota hl
    exact congrArg Prod.fst (react_eq hqueue hquota q)
  quota l hl := by
    obtain rfl := reacts_eq hqueue hquota hl
    exact hquota
  faultless := World.faultless_of_empty hfaults
  deadline := hdeadline
  data := refl_of Store.SameData w.store
  cache := rfl

theorem servesHistories (l : SimulatedLedger) : Replies.ServesHistories l.answer l.view.history :=
  fun _ => ⟨_, rfl, fun _ ha => l.histories_of ha⟩

end SimulatedLedger

end GovernanceIndex
