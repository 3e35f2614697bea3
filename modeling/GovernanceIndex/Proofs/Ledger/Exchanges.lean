import GovernanceIndex.Proofs.Ledger.Answers
import GovernanceIndex.Proofs.Ledger.RetryLoop
import GovernanceIndex.Proofs.Sync.EpochRequests

/-!
Exchanges with a ledger service that fails at times. A request is sent again after every transient
failure, as often as a policy allows, until it is answered or refused. Requests that are made one
after the other are carried out in their order; the first that is refused ends them.
-/
namespace GovernanceIndex

namespace LedgerService

variable {L : Type} [LedgerService L]

theorem behind_reacts (l : L) (qs : List Request) : Reacts l (behind l qs) := by
  induction qs generalizing l with
  | nil => exact refl_of Reacts l
  | cons q qs ih =>
    have hstep : Reacts l (react l q).2 := Relation.ReflTransGen.single ⟨q, rfl⟩
    exact trans_of Reacts hstep (ih (react l q).2)

/-- A request is sent so many times in vain, each time with a transient failure, before it comes to
a last reply. It is answered then, or refused: by a failure that is not transient, or because it
was sent as often as the policy allows. -/
structure Concludes (p : RetryPolicy) (l : L) (q : Request) (n : Nat) (r : q.Reply) : Prop where
  within : n < p.attempts
  transient : ∀ k < n, ∃ cause, replyAfter l q k = .error cause ∧ cause.isTransient
  reply : replyAfter l q n = r
  final : ∀ cause, r = .error cause → cause.isTransient → n + 1 = p.attempts

variable {p : RetryPolicy} {l : L} {q : Request}

theorem concludes_of_isLeast {n : Nat}
    (h : IsLeast {m | 1 ≤ m ∧ p.Stops (fun k => replyAfter l q (k - 1)) m} (n + 1)) :
    Concludes p l q n (replyAfter l q n) where
  within := RetryPolicy.le_attempts_of_isLeast h
  transient k hk := by
    have hnext : k + 1 < n + 1 := Nat.add_lt_add_right hk 1
    obtain ⟨cause, hreply, htransient⟩ :=
      RetryPolicy.transient_of_isLeast h (Nat.le_add_left 1 k) hnext
    exact ⟨cause, hreply, htransient⟩
  reply := rfl
  final cause hcause htransient := by
    rcases h.1.2 with ⟨a, ha⟩ | ⟨cause', hcause', hfinal⟩ | hlast
    · cases ha.symm.trans hcause
    · cases hcause'.symm.trans hcause
      exact absurd htransient hfinal
    · exact hlast

theorem Concludes.isLeast {n : Nat} {r : q.Reply} (h : Concludes p l q n r) :
    IsLeast {m | 1 ≤ m ∧ p.Stops (fun k => replyAfter l q (k - 1)) m} (n + 1) := by
  constructor
  · refine ⟨Nat.le_add_left 1 n, ?_⟩
    rcases hreply : replyAfter l q n with cause | a
    · by_cases htransient : cause.isTransient
      · exact .inr (.inr (h.final cause (h.reply.symm.trans hreply) htransient))
      · exact .inr (.inl ⟨cause, hreply, htransient⟩)
    · exact .inl ⟨a, hreply⟩
  · rintro m ⟨hm, hstops⟩
    by_contra hlt
    obtain ⟨cause, hreply, htransient⟩ := h.transient (m - 1) (by omega)
    rcases hstops with ⟨a, ha⟩ | ⟨cause', hcause', hfinal⟩ | hlast
    · cases ha.symm.trans hreply
    · cases hcause'.symm.trans hreply
      exact hfinal htransient
    · have hwithin : n < max 1 p.maxAttempts.toNat := h.within
      omega

/-- Whatever a service does, every request is answered or refused in the end. -/
theorem exists_concludes (p : RetryPolicy) (l : L) (q : Request) :
    ∃ n r, Concludes p l q n r := by
  obtain ⟨n, hn⟩ := p.exists_isLeast_stops fun k => replyAfter l q (k - 1)
  obtain ⟨n, rfl⟩ := Nat.exists_eq_add_of_le' hn.1.1
  exact ⟨n, _, concludes_of_isLeast hn⟩

theorem Concludes.unique {n n' : Nat} {r r' : q.Reply} (h : Concludes p l q n r)
    (h' : Concludes p l q n' r') : n = n' ∧ r = r' := by
  obtain rfl : n = n' := Nat.succ_inj.mp (h.isLeast.unique h'.isLeast)
  exact ⟨rfl, h.reply.symm.trans h'.reply⟩

/-- Requests are carried out in their order, until all are answered or one is refused. Sent is what
was sent in all, and refused is the failure that ended the requests, if one did. -/
inductive Carried (p : RetryPolicy) :
    (l : L) → (plan sent : List Request) → (refused : Option LedgerError) → Prop
  | done {l : L} : Carried p l [] [] none
  | answered {l : L} {q : Request} {n : Nat} {a : q.Answer} {rest sent : List Request}
      {refused : Option LedgerError} (hanswer : Concludes p l q n (.ok a))
      (hrest : Carried p (behind l (List.replicate (n + 1) q)) rest sent refused) :
      Carried p l (q :: rest) (List.replicate (n + 1) q ++ sent) refused
  | refused {l : L} {q : Request} {n : Nat} {cause : LedgerError} {rest : List Request}
      (hrefused : Concludes p l q n (.error cause)) :
      Carried p l (q :: rest) (List.replicate (n + 1) q) (some cause)

variable {plan sent : List Request} {refused : Option LedgerError}

theorem exists_carried (p : RetryPolicy) (l : L) (plan : List Request) :
    ∃ sent refused, Carried p l plan sent refused := by
  induction plan generalizing l with
  | nil => exact ⟨[], none, .done⟩
  | cons q rest ih =>
    obtain ⟨n, cause | a, hlast⟩ := exists_concludes p l q
    · exact ⟨_, some cause, .refused hlast⟩
    · obtain ⟨sent, refused, hrest⟩ := ih (behind l (List.replicate (n + 1) q))
      exact ⟨_, refused, .answered hlast hrest⟩

/-- If every request is answered, whatever the service got before, none is refused. -/
theorem Carried.refused_eq_none (h : Carried p l plan sent refused)
    (hanswered : ∀ l', Reacts l l' → ∀ q ∈ plan, ∃ n a, Concludes p l' q n (.ok a)) :
    refused = none := by
  induction h with
  | done => rfl
  | answered _ _ ih =>
    apply ih
    intro l' hl' q hq
    have hreacts := trans_of Reacts (behind_reacts _ _) hl'
    exact hanswered l' hreacts q (List.mem_cons_of_mem _ hq)
  | refused hrefused =>
    obtain ⟨n, a, hanswer⟩ := hanswered _ (refl_of Reacts _) _ List.mem_cons_self
    cases (hrefused.unique hanswer).2

theorem Carried.of_append {xs ys : List Request} (h : Carried p l (xs ++ ys) sent refused) :
    (∃ sent₁ sent₂, sent = sent₁ ++ sent₂ ∧ Carried p l xs sent₁ none ∧
        Carried p (behind l sent₁) ys sent₂ refused) ∨
      ∃ cause, refused = some cause ∧ Carried p l xs sent refused := by
  induction xs generalizing l sent with
  | nil => exact .inl ⟨[], sent, rfl, .done, h⟩
  | cons q xs ih =>
    rcases h with _ | ⟨hanswer, hrest⟩ | hrefused
    · rcases ih hrest with ⟨sent₁, sent₂, rfl, hfirst, hlater⟩ | ⟨cause, rfl, hfirst⟩
      · refine .inl ⟨_, sent₂, (List.append_assoc _ _ _).symm, .answered hanswer hfirst, ?_⟩
        rw [behind_append]
        exact hlater
      · exact .inr ⟨cause, rfl, .answered hanswer hfirst⟩
    · exact .inr ⟨_, rfl, .refused hrefused⟩

end LedgerService

open LedgerService (behind replyAfter Concludes Carried)

namespace World

variable {L : Type} [LedgerService L] {w w' w'' : World L}

/-- Between two worlds requests were sent, all of them with a property. -/
def SendsOnly (p : Request → Prop) (w w' : World L) : Prop :=
  ∃ qs, w.Sends qs w' ∧ ∀ q ∈ qs, p q

namespace SendsOnly

variable {p : Request → Prop}

theorem of_none (h : w.Sends [] w') : SendsOnly p w w' := ⟨[], h, nofun⟩

instance : IsPreorder (World L) (SendsOnly p) where
  refl w := of_none (.refl w)
  trans _ _ _ := by
    rintro ⟨qs, hsends, hqs⟩ ⟨rs, hsends', hrs⟩
    exact ⟨qs ++ rs, hsends.trans hsends', List.forall_mem_append.mpr ⟨hqs, hrs⟩⟩

theorem ask (w : World L) {q : Request} (hq : p q) : SendsOnly p w (w.ask q).2 :=
  ⟨[q], .ask w q, List.forall_mem_singleton.mpr hq⟩

theorem congr (h : SendsOnly p w w') (hledger : w''.ledger = w'.ledger)
    (hrequests : w''.requests = w'.requests) (hdeadline : w''.deadline = w'.deadline) :
    SendsOnly p w w'' := by
  obtain ⟨qs, hsends, hqs⟩ := h
  refine ⟨qs, ⟨?_, ?_, hdeadline.trans hsends.deadline⟩, hqs⟩
  · rw [hledger, hsends.ledger]
  · rw [hrequests, hsends.requests]

end SendsOnly

end World

namespace Run

variable {L α β : Type} [LedgerService L] {w : World L}

/-- How an action ends whose requests are carried out: with its result, or with the failure of the
request that was refused. -/
def ending (a : α) : Option LedgerError → Except Halt α
  | none => .ok a
  | some cause => .error (.failed (.ledger cause))

/-- An action makes requests in a given order and comes to a result if all are answered. A request
that is refused ends it at once. -/
def Carries (V : (q : Request) → q.Answer → Prop) (p : RetryPolicy) (plan : List Request)
    (m : Run L α) (a : α) : Prop :=
  ∀ (w : World L) sent refused, LedgerService.Answers V w.ledger → w.deadline = none →
    Carried p w.ledger plan sent refused → ∃ w', m w = (ending a refused, w') ∧ w.Sends sent w'

namespace Carries

variable {V : (q : Request) → q.Answer → Prop} {p : RetryPolicy} {xs ys : List Request}

theorem pure (a : α) : Carries V p [] (pure a : Run L α) a := by
  intro w sent refused _ _ hcarried
  cases hcarried
  exact ⟨w, rfl, .refl w⟩

theorem bind {m : Run L α} {a : α} {f : α → Run L β} {b : β} (hm : Carries V p xs m a)
    (hf : Carries V p ys (f a) b) : Carries V p (xs ++ ys) (m >>= f) b := by
  intro w sent refused hanswers hdeadline hcarried
  rcases hcarried.of_append with ⟨sent₁, sent₂, rfl, hfirst, hlater⟩ | ⟨cause, rfl, hfirst⟩
  · obtain ⟨w₁, hends, hsends⟩ := hm w sent₁ none hanswers hdeadline hfirst
    rw [← hsends.ledger] at hlater
    have hanswers₁ : LedgerService.Answers V w₁.ledger := by
      rw [hsends.ledger]
      exact hanswers.reacts (LedgerService.behind_reacts _ _)
    obtain ⟨w₂, hends₂, hsends₂⟩ :=
      hf w₁ sent₂ refused hanswers₁ (hsends.deadline.trans hdeadline) hlater
    refine ⟨w₂, ?_, hsends.trans hsends₂⟩
    rw [bind_apply_of_ok hends]
    exact hends₂
  · obtain ⟨w₁, hends, hsends⟩ := hm w sent (some cause) hanswers hdeadline hfirst
    exact ⟨w₁, bind_apply_of_error hends f, hsends⟩

theorem map {m : Run L α} {a : α} (f : α → β) (hm : Carries V p xs m a) :
    Carries V p xs (do return f (← m)) (f a) := by
  have hbind : Carries V p (xs ++ []) (m >>= fun a => Pure.pure (f a)) (f a) :=
    bind hm (pure (f a))
  rwa [List.append_nil] at hbind

theorem mapM {f : α → Run L β} {g : α → β} {request : α → Request}
    (hf : ∀ x, Carries V p [request x] (f x) (g x)) (items : List α) :
    Carries V p (items.map request) (items.mapM f) (items.map g) := by
  induction items with
  | nil => exact pure []
  | cons x items ih =>
    rw [List.mapM_cons]
    exact bind (hf x) (ih.map fun ys => g x :: ys)

end Carries

variable {p : RetryPolicy} {q : Request}

theorem retry_concludes {n : Nat} {r : q.Reply} (hdeadline : w.deadline = none)
    (h : Concludes p w.ledger q n r) :
    ∃ w', retry p q w = (.ok r, w') ∧ w.Sends (List.replicate (n + 1) q) w' := by
  let outcome (k : ℕ) : q.Reply := replyAfter w.ledger q (k - 1)
  have hrun : retry p q w = sendAfter q (p.waits outcome (n + 1)) w :=
    retry_eq_sendAfter h.isLeast fun _ => rfl
  obtain ⟨w', hends, hsends, -⟩ := sendAfter_apply hdeadline (p.waits outcome (n + 1))
  rw [RetryPolicy.length_waits, Nat.add_sub_cancel] at hends hsends
  rw [h.reply] at hends
  exact ⟨w', hrun.trans hends, hsends⟩

theorem Carries.request {V : (q : Request) → q.Answer → Prop} {a : q.Answer}
    (hV : ∀ a', V q a' → a' = a) (c : Settings) :
    Carries V c.retry [q] (Run.request c q : Run L q.Answer) a := by
  intro w sent refused hanswers hdeadline hcarried
  rcases hcarried with _ | ⟨hanswer, hrest⟩ | hrefused
  · cases hrest
    obtain ⟨w', hends, hsends⟩ := retry_concludes hdeadline hanswer
    obtain rfl := hV _ (hanswers _ (LedgerService.behind_reacts _ _) q _ hanswer.reply)
    rw [List.append_nil]
    exact ⟨w', bind_apply_of_ok hends _, hsends⟩
  · obtain ⟨w', hends, hsends⟩ := retry_concludes hdeadline hrefused
    exact ⟨w', bind_apply_of_ok hends _, hsends⟩

end Run

end GovernanceIndex
