import GovernanceIndex.Ledger.Simulated
import GovernanceIndex.Proofs.Run.Reads
import GovernanceIndex.Proofs.Table

/-!
What a service answers. A property that all its answers have, whatever requests it gets, holds of
what a request comes to that is sent again until it succeeds, and is not lost by requests or calls.
-/
namespace GovernanceIndex

open LedgerService (Reacts)

variable {L : Type} [LedgerService L] {V : (q : Request) → q.Answer → Prop}

namespace LedgerService

/-- Whatever requests a service gets, its answers have a property. -/
def Answers (V : (q : Request) → q.Answer → Prop) (l : L) : Prop :=
  ∀ l', Reacts l l' → ∀ q a, (react l' q).1 = .ok a → V q a

theorem Answers.reacts {l l' : L} (h : Answers V l) (hl : Reacts l l') : Answers V l' :=
  fun l'' hl'' => h l'' (trans_of Reacts hl hl'')

theorem Answers.mono {W : (q : Request) → q.Answer → Prop} {l : L} (h : Answers V l)
    (hW : ∀ q a, V q a → W q a) : Answers W l :=
  fun l' hl' q a ha => hW q a (h l' hl' q a ha)

theorem answers_trivial (l : L) : Answers (fun _ _ => True) l := fun _ _ _ _ _ => trivial

/-- It is enough to look at single requests if what makes the answers proper is kept by them. -/
theorem Answers.of_kept {K : L → Prop} (hkept : ∀ l q, K l → K (react l q).2)
    (hanswer : ∀ l q a, K l → (react l q).1 = .ok a → V q a) {l : L} (hl : K l) :
    Answers V l := by
  intro l' hreacts
  have hl' : K l' := by
    induction hreacts with
    | refl => exact hl
    | tail _ hstep ih =>
      obtain ⟨p, rfl⟩ := hstep
      exact hkept _ p ih
  exact fun q a => hanswer l' q a hl'

end LedgerService

open LedgerService (Answers)

namespace SimulatedLedger

/-- Two services have the same data, whatever failures are queued and requests are left. -/
def SameData (l l' : SimulatedLedger) : Prop :=
  ∃ queuedFailures quota, l' = { l with queuedFailures, quota }

theorem SameData.answer_eq {l l' : SimulatedLedger} (h : SameData l l') (q : Request) :
    l'.answer q = l.answer q := by
  obtain ⟨queuedFailures, quota, rfl⟩ := h
  cases q <;> rfl

theorem SameData.react {l l' : SimulatedLedger} (h : SameData l l') (q : Request) :
    SameData l (l'.react q).2 := by
  obtain ⟨queuedFailures, quota, rfl⟩ := h
  unfold SimulatedLedger.react
  split
  · exact ⟨_, quota, rfl⟩
  · cases q <;> exact ⟨queuedFailures, _, rfl⟩

theorem answers (l : SimulatedLedger) : Answers (fun q a => l.answer q = .ok a) l := by
  apply Answers.of_kept (V := fun q a => l.answer q = .ok a) (K := SameData l)
  · exact fun l' q h => h.react q
  · intro l' q a h ha
    change (react l' q).1 = _ at ha
    unfold react at ha
    split at ha
    · cases ha
    · exact (h.answer_eq q).symm.trans ha
  · exact ⟨l.queuedFailures, l.quota, rfl⟩

end SimulatedLedger

def DelegationHistory.of (histories : List DelegationHistory) (a : StakeAddress) :
    List DelegationUpdate :=
  ((Inventory.latest (histories.map fun h => (h.address, h.updates))).get? a).getD []

theorem DelegationHistory.mem_of {hs : List DelegationHistory} {a : StakeAddress}
    {u : DelegationUpdate} (h : u ∈ DelegationHistory.of hs a) : ∃ x ∈ hs, u ∈ x.updates := by
  unfold DelegationHistory.of at h
  rw [Inventory.get?_latest] at h
  rcases hlast : ((hs.map fun x => (x.address, x.updates)).filter fun x => x.1 = a).getLast? with
    _ | e
  · rw [hlast] at h
    cases h
  · rw [hlast] at h
    obtain ⟨hmem, -⟩ := List.mem_filter.mp (List.mem_of_getLast? hlast)
    obtain ⟨x, hx, rfl⟩ := List.mem_map.mp hmem
    exact ⟨x, hx, h⟩

def World.Serving (V : (q : Request) → q.Answer → Prop) (P : Store → Prop) (w : World L) : Prop :=
  Answers V w.ledger ∧ P w.store

open World (Serving)

namespace Run

variable {α : Type} {P E : Store → Prop} {Q : α → Store → Prop} {m : Run L α}

theorem Ensures.serving (h : Ensures P m Q E) (hm : Requests m) :
    Triple (Serving V P) m (fun a => Serving V (Q a)) (fun w => E w.store) := by
  rintro w ⟨hanswers, hw⟩
  have hreacts := hm w
  have hends := h w hw
  rcases hr : m w with ⟨halt | a, w'⟩ <;> rw [hr] at hreacts hends
  · exact hends
  · exact ⟨hanswers.reacts hreacts, hends⟩

section

variable {P : World L → Prop} (hP : ∀ w w', World.Passes w w' → P w → P w')
  (hV : ∀ w, P w → Answers V w.ledger)
include hP hV

theorem ask_answers (q : Request) :
    Triple P (ask q) (fun reply w => P w ∧ ∀ a, reply = .ok a → V q a) P := by
  intro w hw
  refine ⟨hP _ _ (Passes.ask q w) hw, fun a ha => ?_⟩
  exact hV w hw w.ledger (refl_of Reacts w.ledger) q a ha

theorem retryFrom_answers (p : RetryPolicy) (q : Request) (left attempt : Nat) :
    Triple P (retryFrom p q left attempt) (fun reply w => P w ∧ ∀ a, reply = .ok a → V q a) P := by
  induction left generalizing attempt with
  | zero => exact ask_answers hP hV q
  | succ left ih =>
    apply Triple.bind (ask_answers hP hV q)
    intro reply
    split
    · apply Triple.bind (Q := fun _ => P)
      · exact ((Passes.wait _).triple hP).pre fun _ hw => hw.1
      · exact fun _ => ih _
    · exact Triple.pure fun _ => id

theorem request_answers (c : Settings) (q : Request) :
    Triple P (request c q) (fun a w => P w ∧ V q a) P := by
  apply Triple.bind (retryFrom_answers hP hV _ q _ _)
  intro reply
  rcases reply with cause | a
  · exact Triple.throw fun _ hw => hw.1
  · exact Triple.pure fun _ hw => ⟨hw.1, hw.2 a rfl⟩

end

theorem request_serving {P : Store → Prop} (hP : ∀ s s', Store.SameData s s' → P s → P s')
    (c : Settings) (q : Request) :
    Triple (Serving V P) (request c q : Run L q.Answer) (fun a w => Serving V P w ∧ V q a)
      (fun w => P w.store) := by
  have hpasses (w w' : World L) (h : w.Passes w') (hw : Serving V P w) : Serving V P w' :=
    ⟨hw.1.reacts h.ledger, hP _ _ h.data hw.2⟩
  exact (request_answers hpasses (fun _ hw => hw.1) c q).mono (fun _ => id) (fun _ _ => id)
    fun _ hw => hw.2

end Run

end GovernanceIndex
