import GovernanceIndex.Run.Action
import Mathlib.Order.Defs.Unbundled

/-!
Contracts for actions. A contract tells what holds of the store behind an action, apart for an
action that ends and for one that halts; a move tells how the store behind an action relates to the
store before it, whatever the action came to. Both are put together along the steps of an action.
-/
namespace GovernanceIndex

namespace World

variable {L : Type}

def withStore (w : World L) (s : Store) : World L := { w with store := s }

@[simp]
theorem takeFault_store (w : World L) (m : StoreMethod) : (w.takeFault m).2.store = w.store := by
  unfold takeFault
  split <;> rfl

@[simp]
theorem note_store (w : World L) (c : StoreCall) : (w.note c).store = w.store := by
  unfold note
  split <;> rfl

/-- A call has its effect on the store, or fails without one. -/
theorem call_cases (w : World L) (c : StoreCall) :
    (∃ r w', w.call c = (.ok r, w') ∧ w.store.perform c = .ok (r, w'.store)) ∨
      ∃ cause w', w.call c = (.error cause, w') ∧ w'.store = w.store := by
  have htake := w.takeFault_store c.method
  unfold call
  rcases hf : w.takeFault c.method with ⟨_ | cause, v⟩ <;> rw [hf] at htake
  · have hstore : (v.note c).store = w.store := (v.note_store c).trans htake
    simp only [hstore]
    rcases hp : w.store.perform c with cause | ⟨r, s⟩
    · exact .inr ⟨cause, _, rfl, hstore⟩
    · exact .inl ⟨r, _, rfl, rfl⟩
  · exact .inr ⟨cause, v, rfl, htake⟩

theorem call_relates {R : Store → Store → Prop} [IsPreorder Store R] {w : World L} {c : StoreCall}
    (h : ∀ r s, w.store.perform c = .ok (r, s) → R w.store s) : R w.store (w.call c).2.store := by
  rcases w.call_cases c with ⟨r, w', hr, hp⟩ | ⟨cause, w', hr, hs⟩ <;> rw [hr]
  · exact h r w'.store hp
  · change R w.store w'.store
    rw [hs]
    exact refl_of R w.store

/-- Which fault a call meets is a matter of the list of faults of its method alone. -/
theorem takeFault_congr {v w : World L} {m : StoreMethod}
    (h : v.faults.get? m = w.faults.get? m) : (v.takeFault m).1 = (w.takeFault m).1 := by
  unfold takeFault
  rw [h]
  split <;> rfl

theorem call_faults (w : World L) {c : StoreCall} {m : StoreMethod} (hm : c.method ≠ m) :
    (w.call c).2.faults.get? m = w.faults.get? m := by
  have htake : (w.takeFault c.method).2.faults.get? m = w.faults.get? m := by
    unfold takeFault
    split
    · dsimp only
      rw [Table.get?_insert, if_neg (Ne.symm hm)]
    · rfl
  have hnote (v : World L) : (v.note c).faults = v.faults := by
    unfold note
    split <;> rfl
  unfold call
  rcases hf : w.takeFault c.method with ⟨_ | cause, v⟩ <;> rw [hf] at htake
  · dsimp only
    rcases (v.note c).store.perform c with cause | ⟨r, s⟩ <;> rw [hnote] <;> exact htake
  · exact htake

theorem call_answer {w : World L} {c : StoreCall} (h : (w.takeFault c.method).1 = none) :
    (w.call c).1 = (w.store.perform c).map Prod.fst := by
  have htake := w.takeFault_store c.method
  unfold call
  rcases hf : w.takeFault c.method with ⟨_ | cause, v⟩ <;> rw [hf] at htake h
  · have hstore : (v.note c).store = w.store := (v.note_store c).trans htake
    simp only [hstore]
    rcases w.store.perform c with cause | ⟨r, s⟩ <;> rfl
  · cases h

theorem call_changes (w : World L) (c : StoreCall) :
    ∃ store faults writes, (w.call c).2 = { w with store, faults, writes } := by
  have htake : ∃ faults, (w.takeFault c.method).2 = { w with faults } := by
    unfold takeFault
    split
    · exact ⟨_, rfl⟩
    · exact ⟨w.faults, rfl⟩
  have hnote (v : World L) : ∃ writes, v.note c = { v with writes } := by
    unfold note
    split
    · exact ⟨_, rfl⟩
    · exact ⟨v.writes, rfl⟩
  obtain ⟨faults, htaken⟩ := htake
  unfold call
  rcases hf : w.takeFault c.method with ⟨_ | cause, v⟩ <;> rw [hf] at htaken <;> subst htaken
  · obtain ⟨writes, hnoted⟩ := hnote { w with faults }
    dsimp only
    rw [hnoted]
    rcases ({ w with faults, writes } : World L).store.perform c with cause | ⟨r, s⟩
    · exact ⟨w.store, faults, writes, rfl⟩
    · exact ⟨s, faults, writes, rfl⟩
  · exact ⟨w.store, faults, w.writes, rfl⟩

theorem call_noted (w : World L) (c : StoreCall) :
    (w.call c).2.writes = (if c.isWrite then [c] else []) ++ w.writes ∨
      (∃ cause, (w.call c).1 = .error cause) ∧ (w.call c).2.writes = w.writes := by
  have htake : (w.takeFault c.method).2.writes = w.writes := by
    unfold takeFault
    split <;> rfl
  have hnote (v : World L) : (v.note c).writes = (if c.isWrite then [c] else []) ++ v.writes := by
    unfold note
    split <;> rfl
  unfold call
  rcases hf : w.takeFault c.method with ⟨_ | cause, v⟩ <;> rw [hf] at htake
  · left
    dsimp only at htake ⊢
    rw [← htake, ← hnote]
    rcases (v.note c).store.perform c with cause | ⟨r, s⟩ <;> rfl
  · exact .inr ⟨⟨cause, rfl⟩, htake⟩

theorem call_frame (w : World L) (c : StoreCall) :
    (w.call c).2.ledger = w.ledger ∧ (w.call c).2.cache = w.cache ∧
      (w.call c).2.worker = w.worker := by
  obtain ⟨store, faults, writes, h⟩ := w.call_changes c
  rw [h]
  exact ⟨rfl, rfl, rfl⟩

theorem advance_changes (w : World L) (time : Nat) :
    ∃ store faults writes heartbeats, w.advance time =
      { w with store, faults, writes, clock := max w.clock time, heartbeats } := by
  have hbeats : ∃ store faults writes,
      (w.beats time).foldl beat w = { w with store, faults, writes } := by
    refine List.foldlRecOn (motive := fun v => ∃ store faults writes,
      v = { w with store, faults, writes }) _ _ ⟨w.store, w.faults, w.writes, rfl⟩ ?_
    rintro _ ⟨store, faults, writes, rfl⟩ h -
    exact call_changes _ _
  obtain ⟨store, faults, writes, hbeaten⟩ := hbeats
  unfold advance
  rw [hbeaten]
  exact ⟨store, faults, writes, _, rfl⟩

end World

namespace Run

variable {L α β : Type}

theorem bind_apply (m : Run L α) (f : α → Run L β) (w : World L) :
    (m >>= f) w = match m w with
      | (.ok a, w') => f a w'
      | (.error halt, w') => (.error halt, w') := by
  change (ExceptT.bindCont f (m w).1 : StateM (World L) _) (m w).2 = _
  rcases m w with ⟨_ | _, w'⟩ <;> rfl

theorem bind_apply_of_ok {m : Run L α} {a : α} {w w' : World L} (h : m w = (.ok a, w'))
    (f : α → Run L β) : (m >>= f) w = f a w' := by
  rw [bind_apply, h]

theorem get_bind_apply (f : World L → Run L α) (w : World L) : (get >>= f) w = f w w :=
  bind_apply_of_ok (rfl : (get : Run L (World L)) w = (.ok w, w)) f

theorem exists_of_bind_ok {m : Run L α} {f : α → Run L β} {b : β} {w w' : World L}
    (h : (m >>= f) w = (.ok b, w')) : ∃ a w₁, m w = (.ok a, w₁) ∧ f a w₁ = (.ok b, w') := by
  rw [bind_apply] at h
  rcases hm : m w with ⟨halt | a, w₁⟩ <;> rw [hm] at h
  · cases h
  · exact ⟨a, w₁, rfl, h⟩

theorem bind_apply_of_error {m : Run L α} {halt : Halt} {w w' : World L}
    (h : m w = (.error halt, w')) (f : α → Run L β) : (m >>= f) w = (.error halt, w') := by
  rw [bind_apply, h]

theorem call_eq (c : StoreCall) (w : World L) :
    call c w = match w.call c with
      | (.ok r, w') => (.ok r, w')
      | (.error cause, w') => (.error (.failed (.store cause)), w') := by
  change (onWorld (fun w => w.call c) >>= _) w = _
  rw [bind_apply]
  rcases hw : w.call c with ⟨_ | _, w'⟩ <;> simp only [onWorld, hw] <;> rfl

theorem call_world (c : StoreCall) (w : World L) : (call c w).2 = (w.call c).2 := by
  rw [call_eq]
  rcases w.call c with ⟨_ | _, w'⟩ <;> rfl

theorem call_apply (c : StoreCall) (w : World L) :
    (∃ r w', call c w = (.ok r, w') ∧ w.store.perform c = .ok (r, w'.store)) ∨
      ∃ halt w', call c w = (.error halt, w') ∧ w'.store = w.store := by
  rw [call_eq]
  rcases w.call_cases c with ⟨r, w', hr, hp⟩ | ⟨cause, w', hr, hs⟩ <;> rw [hr]
  · exact .inl ⟨r, w', rfl, hp⟩
  · exact .inr ⟨_, w', rfl, hs⟩

theorem call_of_ok {c : StoreCall} {effect : Store → c.Result × Store} {r : c.Result}
    {w w' : World L} (hc : ∀ s : Store, s.perform c = .ok (effect s))
    (h : call c w = (.ok r, w')) : r = (effect w.store).1 ∧ w'.store = (effect w.store).2 := by
  rcases call_apply c w with ⟨r', v, hcall, hp⟩ | ⟨_, _, hcall, -⟩
  · cases hcall.symm.trans h
    exact Prod.mk.inj (Except.ok.inj (hp.symm.trans (hc w.store)))
  · cases hcall.symm.trans h

theorem exists_advance (time : Nat) (w : World L) :
    ∃ until', (waitUntil time w).2 = w.advance until' := by
  unfold waitUntil
  rw [get_bind_apply]
  rcases w.deadline with _ | deadline
  · exact ⟨time, rfl⟩
  · dsimp only
    split
    · exact ⟨time, rfl⟩
    · exact ⟨deadline, rfl⟩

theorem waitUntil_apply {w : World L} (hdeadline : w.deadline = none) (time : Nat) :
    waitUntil time w = (.ok (), w.advance time) := by
  unfold waitUntil
  rw [get_bind_apply, hdeadline]
  rfl

theorem attempt_apply (m : Run L α) (w : World L) :
    attempt m w = match m w with
      | (.ok a, w') => (.ok (.ok a), w')
      | (.error (.failed cause), w') => (.ok (.error cause), w')
      | (.error halt, w') => (.error halt, w') := by
  have hout : outcome m w = (.ok (m w).1, (m w).2) := rfl
  unfold attempt
  rw [bind_apply_of_ok hout]
  rcases m w with ⟨(_ | _ | _) | a, w'⟩ <;> rfl

/-- From a world with `P`, an action that ends leads to `Q`, and one that halts leads to `E`. -/
def Triple (P : World L → Prop) (m : Run L α) (Q : α → World L → Prop) (E : World L → Prop) :
    Prop :=
  ∀ w, P w → match m w with
    | (.ok a, w') => Q a w'
    | (.error _, w') => E w'

namespace Triple

variable {P P' : World L → Prop} {Q Q' : α → World L → Prop} {E E' : World L → Prop}
  {m : Run L α}

theorem ok (h : Triple P m Q E) {a : α} {w w' : World L} (hw : P w) (hr : m w = (.ok a, w')) :
    Q a w' := by
  have := h w hw
  rwa [hr] at this

theorem error (h : Triple P m Q E) {halt : Halt} {w w' : World L} (hw : P w)
    (hr : m w = (.error halt, w')) : E w' := by
  have := h w hw
  rwa [hr] at this

/-- What is promised both of an action that ends and of one that halts holds behind it. -/
theorem final {R : World L → Prop} (h : Triple P m (fun _ => R) R) {w : World L} (hw : P w) :
    R (m w).2 := by
  have := h w hw
  rcases hr : m w with ⟨_ | a, w'⟩ <;> rw [hr] at this <;> exact this

theorem mono (h : Triple P m Q E) (hP : ∀ w, P' w → P w) (hQ : ∀ a w, Q a w → Q' a w)
    (hE : ∀ w, E w → E' w) : Triple P' m Q' E' := by
  intro w hw
  have := h w (hP _ hw)
  rcases hr : m w with ⟨_ | a, w'⟩ <;> rw [hr] at this
  · exact hE _ this
  · exact hQ _ _ this

theorem pre (h : Triple P m Q E) (hP : ∀ w, P' w → P w) : Triple P' m Q E :=
  h.mono hP (fun _ _ => id) fun _ => id

theorem post (h : Triple P m Q E) (hQ : ∀ a w, Q a w → Q' a w) : Triple P m Q' E :=
  h.mono (fun _ => id) hQ fun _ => id

theorem assuming {p : Prop} (h : p → Triple P m Q E) : Triple (fun w => p ∧ P w) m Q E :=
  fun w hw => h hw.1 w hw.2

theorem naming (h : ∀ w₀, P w₀ → Triple (fun w => w = w₀) m Q E) : Triple P m Q E :=
  fun w hw => h w hw w rfl

theorem and (h : Triple P m Q E) (h' : Triple P m Q' E') :
    Triple P m (fun a w => Q a w ∧ Q' a w) (fun w => E w ∧ E' w) := by
  intro w hw
  have hm := h w hw
  have hm' := h' w hw
  rcases hr : m w with ⟨_ | a, w'⟩ <;> rw [hr] at hm hm' <;> exact ⟨hm, hm'⟩

theorem pure {a : α} (h : ∀ w, P w → Q a w) : Triple P (pure a : Run L α) Q E := h

theorem throw {halt : Halt} (h : ∀ w, P w → E w) : Triple P (throw halt : Run L α) Q E := h

theorem bind {S : β → World L → Prop} {f : α → Run L β} (hm : Triple P m Q E)
    (hf : ∀ a, Triple (Q a) (f a) S E) : Triple P (m >>= f) S E := by
  intro w hw
  have h := hm w hw
  rw [bind_apply]
  rcases hr : m w with ⟨halt | a, w'⟩ <;> rw [hr] at h
  · exact h
  · exact hf a w' h

theorem attempt (h : Triple P m (fun _ => E) E) : Triple P (attempt m) (fun _ => E) E := by
  intro w hw
  have hm := h w hw
  rw [attempt_apply]
  rcases hr : m w with ⟨(_ | _ | _) | a, w'⟩ <;> rw [hr] at hm <;> exact hm

theorem mapM {f : α → Run L β} {g : α → β}
    (hf : ∀ a, Triple P (f a) (fun b w => b = g a ∧ P w) P) (xs : List α) :
    Triple P (xs.mapM f) (fun ys w => ys = xs.map g ∧ P w) P := by
  induction xs with
  | nil => exact pure fun w hw => ⟨rfl, hw⟩
  | cons x xs ih =>
    rw [List.mapM_cons]
    apply bind (hf x)
    rintro y
    apply assuming
    rintro rfl
    apply bind ih
    intro ys
    apply assuming
    rintro rfl
    exact pure fun w hw => ⟨rfl, hw⟩

/-- That an action ended may be remembered together with the world that it started from. -/
theorem ran {w₀ : World L} (h : Triple (fun w => w = w₀) m Q E) :
    Triple (fun w => w = w₀) m (fun a w => m w₀ = (.ok a, w) ∧ Q a w) E := by
  rintro w rfl
  have hm := h w rfl
  rcases hr : m w with ⟨_ | a, w'⟩ <;> rw [hr] at hm
  · exact hm
  · exact ⟨rfl, hm⟩

theorem getBind {f : World L → Run L α} (h : ∀ w₀, Triple (fun w => w = w₀ ∧ P w) (f w₀) Q E) :
    Triple P (get >>= f) Q E := by
  intro w hw
  rw [get_bind_apply]
  exact h w w ⟨rfl, hw⟩

end Triple

/-- From a store with `P`, an action that ends leads to `Q`, and one that halts leads to `E`. -/
def Ensures (P : Store → Prop) (m : Run L α) (Q : α → Store → Prop) (E : Store → Prop) : Prop :=
  Triple (fun w => P w.store) m (fun a w => Q a w.store) fun w => E w.store

namespace Ensures

variable {P P' : Store → Prop} {Q Q' : α → Store → Prop} {E E' : Store → Prop} {m : Run L α}

theorem halt (h : Ensures P m Q E) {halt : Halt} {w w' : World L} (hw : P w.store)
    (hr : m w = (.error halt, w')) : E w'.store := Triple.error h hw hr

theorem mono (h : Ensures P m Q E) (hP : ∀ s, P' s → P s) (hQ : ∀ a s, Q a s → Q' a s)
    (hE : ∀ s, E s → E' s) : Ensures P' m Q' E' :=
  Triple.mono h (fun _ => hP _) (fun a _ => hQ a _) fun _ => hE _

theorem pre (h : Ensures P m Q E) (hP : ∀ s, P' s → P s) : Ensures P' m Q E :=
  h.mono hP (fun _ _ => id) fun _ => id

theorem post (h : Ensures P m Q E) (hQ : ∀ a s, Q a s → Q' a s) : Ensures P m Q' E :=
  h.mono (fun _ => id) hQ fun _ => id

theorem naming (h : ∀ s₀, P s₀ → Ensures (fun s => s = s₀) m Q E) : Ensures P m Q E :=
  fun w hw => h w.store hw w rfl

theorem and (h : Ensures P m Q E) (h' : Ensures P m Q' E') :
    Ensures P m (fun a s => Q a s ∧ Q' a s) (fun s => E s ∧ E' s) := Triple.and h h'

theorem pure {a : α} (h : ∀ s, P s → Q a s) : Ensures P (pure a : Run L α) Q E :=
  Triple.pure fun _ => h _

theorem assuming {p : Prop} (h : p → Ensures P m Q E) : Ensures (fun s => p ∧ P s) m Q E :=
  Triple.assuming h

theorem bind {S : β → Store → Prop} {f : α → Run L β} (hm : Ensures P m Q E)
    (hf : ∀ a, Ensures (Q a) (f a) S E) : Ensures P (m >>= f) S E := Triple.bind hm hf

theorem attempt (h : Ensures P m (fun _ => E) E) : Ensures P (attempt m) (fun _ => E) E :=
  Triple.attempt h

theorem getBind {f : World L → Run L α} (h : ∀ w, Ensures P (f w) Q E) :
    Ensures P (get >>= f) Q E :=
  Triple.getBind fun w => Triple.pre (h w) fun _ hw => hw.2

theorem call {c : StoreCall} {Q : c.Result → Store → Prop}
    (hQ : ∀ s r s', P s → s.perform c = .ok (r, s') → Q r s') (hE : ∀ s, P s → E s) :
    Ensures P (Run.call c : Run L c.Result) Q E := by
  intro w hw
  rcases call_apply c w with ⟨r, w', hr, hp⟩ | ⟨halt, w', hr, hs⟩ <;> rw [hr]
  · exact hQ _ _ _ hw hp
  · change E w'.store
    rw [hs]
    exact hE _ hw

theorem callTo {c : StoreCall} {Q : c.Result → Store → Prop} {effect : Store → c.Result × Store}
    (hc : ∀ s : Store, s.perform c = .ok (effect s)) (hQ : ∀ s, P s → Q (effect s).1 (effect s).2)
    (hE : ∀ s, P s → E s) : Ensures P (Run.call c : Run L c.Result) Q E := by
  apply call _ hE
  intro s r s' hs hcall
  have heffect : effect s = (r, s') := Except.ok.inj ((hc s).symm.trans hcall)
  have hleads := hQ s hs
  rwa [heffect] at hleads

end Ensures

theorem Triple.callTo {c : StoreCall} {P E : World L → Prop} {Q : c.Result → World L → Prop}
    {effect : Store → c.Result × Store} (hc : ∀ s : Store, s.perform c = .ok (effect s))
    (hQ : ∀ w, P w → (w.call c).2.store = (effect w.store).2 → Q (effect w.store).1 (w.call c).2)
    (hE : ∀ w cause, P w → (w.call c).1 = .error cause → E (w.call c).2) :
    Triple P (call c : Run L c.Result) Q E := by
  intro w hw
  have hleads := hQ w hw
  have hfails := hE w
  rw [call_eq]
  rcases w.call_cases c with ⟨r, w', hr, hp⟩ | ⟨cause, w', hr, -⟩ <;> rw [hr] at hleads hfails ⊢
  · have heffect : effect w.store = (r, w'.store) := Except.ok.inj ((hc w.store).symm.trans hp)
    rw [heffect] at hleads
    exact hleads rfl
  · exact hfails cause hw rfl

def storeAfter (m : Run L α) (w : World L) (s : Store) : Store := (m (w.withStore s)).2.store

theorem Ensures.storeAfter {P Q : Store → Prop} {m : Run L α} (h : Ensures P m (fun _ => Q) Q)
    (w : World L) {s : Store} (hs : P s) : Q (m.storeAfter w s) :=
  Triple.final h (w := w.withStore s) hs

/-- What an action returns if it ends has a property. -/
def Returns (V : α → Prop) (m : Run L α) : Prop := ∀ w a w', m w = (.ok a, w') → V a

namespace Returns

variable {V : β → Prop}

theorem pure {b : β} (h : V b) : Returns V (pure b : Run L β) := by
  intro w b' w' hr
  cases hr
  exact h

theorem bind {m : Run L α} {f : α → Run L β} (hf : ∀ a, Returns V (f a)) :
    Returns V (m >>= f) := by
  intro w b w' hr
  obtain ⟨a, w₁, -, hf'⟩ := exists_of_bind_ok hr
  exact hf a w₁ b w' hf'

end Returns

/-- Whatever an action comes to, the world behind it is related to the world before it. -/
def Shifts (R : World L → World L → Prop) (m : Run L α) : Prop := ∀ w, R w (m w).2

namespace Shifts

variable {R S : World L → World L → Prop} {m : Run L α}

theorem mono (h : Shifts R m) (hR : ∀ w w', R w w' → S w w') : Shifts S m := fun w => hR _ _ (h w)

theorem triple (h : Shifts R m) {P : World L → Prop} (hP : ∀ w w', R w w' → P w → P w') :
    Triple P m (fun _ => P) P := by
  intro w hw
  have := hP _ _ (h w) hw
  rcases hr : m w with ⟨_ | a, w'⟩ <;> rw [hr] at this <;> exact this

theorem relates (h : Shifts R m) (w₀ : World L) :
    Triple (fun w => w = w₀) m (fun _ => R w₀) (R w₀) := by
  rintro w rfl
  have hw := h w
  rcases hr : m w with ⟨_ | a, w'⟩ <;> rw [hr] at hw <;> exact hw

theorem attempt (hm : Shifts R m) : Shifts R (attempt m) := by
  intro w
  have h := hm w
  rw [attempt_apply]
  rcases hr : m w with ⟨(_ | _ | _) | a, w'⟩ <;> rw [hr] at h <;> exact h

theorem modify {f : World L → World L} (h : ∀ w, R w (f w)) :
    Shifts R (modify f : Run L Unit) := h

/-- Behind an action another one moves on, along a relation of its own. -/
theorem through {T : World L → World L → Prop} {f : α → Run L β} (hm : Shifts R m)
    (hf : ∀ a, Shifts S (f a)) (hhalt : ∀ {w w'}, R w w' → T w w')
    (h : ∀ {w w' w''}, R w w' → S w' w'' → T w w'') : Shifts T (m >>= f) := by
  intro w
  have hfirst := hm w
  rw [bind_apply]
  rcases hr : m w with ⟨halt | a, w'⟩ <;> rw [hr] at hfirst
  · exact hhalt hfirst
  · exact h hfirst (hf a w')

variable [IsPreorder (World L) R]

theorem pure (a : α) : Shifts R (pure a : Run L α) := fun w => refl_of R w

theorem throw (halt : Halt) : Shifts R (throw halt : Run L α) := fun w => refl_of R w

theorem bind {f : α → Run L β} (hm : Shifts R m) (hf : ∀ a, Shifts R (f a)) :
    Shifts R (m >>= f) := through hm hf id (trans_of R)

theorem getBind {f : World L → Run L α} (h : ∀ w, Shifts R (f w)) : Shifts R (get >>= f) :=
  bind (fun w => refl_of R w) h

theorem mapM {f : α → Run L β} (hf : ∀ a, Shifts R (f a)) (xs : List α) :
    Shifts R (xs.mapM f) := by
  induction xs with
  | nil => exact pure []
  | cons x xs ih =>
    rw [List.mapM_cons]
    exact bind (hf x) fun _ => bind ih fun _ => pure _

end Shifts

/-- A relation of the stores as one of the worlds. -/
def OnStore (R : Store → Store → Prop) (w w' : World L) : Prop := R w.store w'.store

instance {R : Store → Store → Prop} [IsPreorder Store R] : IsPreorder (World L) (OnStore R) where
  refl w := refl_of R w.store
  trans _ _ _ h h' := trans_of R h h'

/-- Whatever an action comes to, the store behind it is related to the store before it. -/
def Moves (R : Store → Store → Prop) (m : Run L α) : Prop := Shifts (OnStore R) m

namespace Moves

variable {R S : Store → Store → Prop} {m : Run L α}

theorem mono (h : Moves R m) (hR : ∀ s s', R s s' → S s s') : Moves S m := fun w => hR _ _ (h w)

theorem storeAfter (h : Moves R m) (w : World L) (s : Store) : R s (m.storeAfter w s) :=
  h (w.withStore s)

theorem ensures (h : Moves R m) {P : Store → Prop} (hP : ∀ s s', R s s' → P s → P s') :
    Ensures P m (fun _ => P) P := Shifts.triple h fun _ _ hR => hP _ _ hR

theorem relates (h : Moves R m) (s₀ : Store) :
    Ensures (fun s => s = s₀) m (fun _ => R s₀) (R s₀) := by
  rintro w rfl
  have hw := h w
  rcases hr : m w with ⟨_ | a, w'⟩ <;> rw [hr] at hw <;> exact hw

theorem attempt (hm : Moves R m) : Moves R (attempt m) := Shifts.attempt hm

variable [IsPreorder Store R]

theorem pure (a : α) : Moves R (pure a : Run L α) := Shifts.pure a

theorem throw (halt : Halt) : Moves R (throw halt : Run L α) := Shifts.throw halt

theorem bind {f : α → Run L β} (hm : Moves R m) (hf : ∀ a, Moves R (f a)) :
    Moves R (m >>= f) := Shifts.bind hm hf

theorem bindReturned {V : α → Prop} {f : α → Run L β} (hm : Moves R m) (hv : Returns V m)
    (hf : ∀ a, V a → Moves R (f a)) : Moves R (m >>= f) := by
  intro w
  have h := hm w
  rw [bind_apply]
  rcases hr : m w with ⟨halt | a, w'⟩ <;> rw [hr] at h
  · exact h
  · exact trans_of (OnStore R) h (hf a (hv w a w' hr) w')

theorem call {c : StoreCall} (h : ∀ s r s', s.perform c = .ok (r, s') → R s s') :
    Moves R (Run.call c : Run L c.Result) := by
  intro w
  change R w.store (Run.call c w).2.store
  rw [call_world]
  exact World.call_relates (h w.store)

theorem callTo {c : StoreCall} {effect : Store → c.Result × Store}
    (hc : ∀ s : Store, s.perform c = .ok (effect s)) (h : ∀ s, R s (effect s).2) :
    Moves R (Run.call c : Run L c.Result) := by
  apply call
  intro s r s' hcall
  have heffect : effect s = (r, s') := Except.ok.inj ((hc s).symm.trans hcall)
  have hmoves := h s
  rwa [heffect] at hmoves

end Moves

end Run

end GovernanceIndex
