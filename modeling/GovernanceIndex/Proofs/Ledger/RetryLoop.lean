import GovernanceIndex.Ledger.Scripted
import GovernanceIndex.Proofs.Backoff
import GovernanceIndex.Proofs.Run.Contract
import GovernanceIndex.Run.Retry
import Mathlib.Data.Nat.Find
import Mathlib.Order.Bounds.Basic
import Mathlib.Order.Nat

/-!
The loop that sends a request again. Which attempt is the last one, and how long it is waited behind
the others, is told by the policy and by what comes back alone. So whatever a service does, a run of
the loop is a plain row of requests with waits between them.
-/
namespace GovernanceIndex

namespace RetryPolicy

variable {α : Type} {p : RetryPolicy} {outcome : ℕ → Except LedgerError α} {attempt n k : ℕ}

theorem next?_of_transient {cause : LedgerError} (htransient : cause.isTransient)
    (hroom : attempt < p.attempts) :
    p.next? attempt (.error cause : Except LedgerError α) =
      some (p.delayWithHint attempt cause.hint) := by
  have hretry : cause.isTransient && p.shouldRetry attempt :=
    Bool.and_eq_true_iff.mpr ⟨htransient, decide_eq_true hroom⟩
  exact if_pos hretry

theorem next?_of_final {reply : Except LedgerError α}
    (hfinal : ∀ cause, reply = .error cause → cause.isTransient → attempt = p.attempts) :
    p.next? attempt reply = none := by
  rcases reply with cause | a
  · apply if_neg
    intro hretry
    obtain ⟨htransient, hroom⟩ := Bool.and_eq_true_iff.mp hretry
    exact absurd (of_decide_eq_true hroom) (hfinal cause rfl htransient).not_lt
  · rfl

/-- The reply to an attempt, counted from one, is the last: an answer, a failure that is not
transient, or what comes back for the last attempt that the policy allows. -/
def Stops (p : RetryPolicy) (outcome : ℕ → Except LedgerError α) (n : ℕ) : Prop :=
  (∃ a, outcome n = .ok a) ∨ (∃ cause, outcome n = .error cause ∧ ¬ cause.isTransient) ∨
    n = max 1 p.maxAttempts.toNat

/-- The wait behind an attempt: as long as a rate limit asks for, or else as computed. -/
def waitBehind (p : RetryPolicy) (attempt : ℕ) : Except LedgerError α → Duration
  | .error (.rateLimited (some hint)) => hint.min p.maxDelay
  | _ => p.delayFor attempt

/-- The waits between the first attempts, as many as there are. -/
def waits (p : RetryPolicy) (outcome : ℕ → Except LedgerError α) (n : ℕ) : List Duration :=
  (List.range' 1 (n - 1)).map fun k => p.waitBehind k (outcome k)

theorem length_waits (p : RetryPolicy) (outcome : ℕ → Except LedgerError α) (n : ℕ) :
    (p.waits outcome n).length = n - 1 := by simp [waits]

theorem waitBehind_error (p : RetryPolicy) (attempt : ℕ) (cause : LedgerError) :
    p.waitBehind attempt (.error cause : Except LedgerError α) =
      p.delayWithHint attempt cause.hint := by
  cases cause with
  | rateLimited hint => cases hint <;> rfl
  | _ => rfl

theorem waitBehind_le (p : RetryPolicy) (attempt : ℕ) (reply : Except LedgerError α) :
    (p.waitBehind attempt reply).nanos ≤ p.maxDelay.nanos := by
  unfold waitBehind
  split
  · exact Duration.min_le_right _ _
  · exact p.delayFor_le attempt

theorem attempts_lt (p : RetryPolicy) : p.attempts < UInt32.size :=
  Nat.max_lt.mpr ⟨by decide, p.maxAttempts.toNat_lt_size⟩

theorem exists_isLeast_stops (p : RetryPolicy) (outcome : ℕ → Except LedgerError α) :
    ∃ n, IsLeast {n | 1 ≤ n ∧ p.Stops outcome n} n := by
  classical
  have hends : ∃ n, 1 ≤ n ∧ p.Stops outcome n :=
    ⟨p.attempts, Nat.le_max_left 1 _, .inr (.inr rfl)⟩
  exact ⟨Nat.find hends, Nat.find_spec hends, fun _ hm => Nat.find_min' hends hm⟩

theorem Stops.next? (h : p.Stops outcome n) : p.next? n (outcome n) = none := by
  apply next?_of_final
  intro cause hcause htransient
  rcases h with ⟨a, ha⟩ | ⟨cause', hcause', hfinal⟩ | hn
  · cases ha.symm.trans hcause
  · cases hcause'.symm.trans hcause
    exact absurd htransient hfinal
  · exact hn

section

variable (h : IsLeast {n | 1 ≤ n ∧ p.Stops outcome n} n)
include h

theorem le_attempts_of_isLeast : n ≤ p.attempts :=
  h.2 ⟨Nat.le_max_left 1 _, .inr (.inr rfl)⟩

theorem transient_of_isLeast (hk : 1 ≤ k) (hkn : k < n) :
    ∃ cause, outcome k = .error cause ∧ cause.isTransient := by
  have hgoes : ¬ p.Stops outcome k := fun hstops => (h.2 ⟨hk, hstops⟩).not_gt hkn
  rcases hreply : outcome k with cause | a
  · refine ⟨cause, rfl, ?_⟩
    by_contra hfinal
    exact hgoes (.inr (.inl ⟨cause, hreply, hfinal⟩))
  · exact absurd (.inl ⟨a, hreply⟩) hgoes

end

end RetryPolicy

namespace LedgerService

variable {L : Type} [LedgerService L]

def behind (l : L) (qs : List Request) : L := qs.foldl (fun l q => (react l q).2) l

theorem behind_append (l : L) (qs rs : List Request) :
    behind l (qs ++ rs) = behind (behind l qs) rs := List.foldl_append

/-- What comes back for a request behind so many earlier ones of the same kind. -/
def replyAfter (l : L) (q : Request) (n : Nat) : q.Reply :=
  (react (behind l (List.replicate n q)) q).1

end LedgerService

open LedgerService (behind replyAfter react)

/-- A service that replies to one request as given, attempt by attempt, and to no other. -/
structure ReplyStream (q : Request) where
  replies : ℕ → q.Reply

namespace ReplyStream

variable {q : Request}

instance : LedgerService (ReplyStream q) where
  react s q' :=
    if h : q' = q then (h ▸ s.replies 0, ⟨fun k => s.replies (k + 1)⟩)
    else (.error (.timeout ""), s)
  quota _ := none

theorem react_self (s : ReplyStream q) :
    react s q = (s.replies 0, ⟨fun k => s.replies (k + 1)⟩) := dif_pos rfl

theorem replyAfter_eq (s : ReplyStream q) (k : ℕ) : replyAfter s q k = s.replies k := by
  induction k generalizing s with
  | zero => exact congrArg Prod.fst s.react_self
  | succ k ih =>
    have hstep : replyAfter s q (k + 1) = replyAfter (react s q).2 q k := rfl
    rw [hstep, react_self, ih]

end ReplyStream

namespace World

variable {L : Type} [LedgerService L] {w w' w'' : World L} {qs rs : List Request}

/-- A world comes out of another one by requests, apart from what the passing of time does. -/
structure Sends (w : World L) (qs : List Request) (w' : World L) : Prop where
  ledger : w'.ledger = behind w.ledger qs
  requests : w'.requests.map Prod.snd = qs.reverse ++ w.requests.map Prod.snd
  deadline : w'.deadline = w.deadline

namespace Sends

theorem refl (w : World L) : w.Sends [] w := ⟨rfl, rfl, rfl⟩

theorem trans (h : w.Sends qs w') (h' : w'.Sends rs w'') : w.Sends (qs ++ rs) w'' := by
  refine ⟨?_, ?_, h'.deadline.trans h.deadline⟩
  · rw [h'.ledger, h.ledger, LedgerService.behind_append]
  · rw [h'.requests, h.requests, List.reverse_append, List.append_assoc]

theorem ask (w : World L) (q : Request) : w.Sends [q] (w.ask q).2 := ⟨rfl, rfl, rfl⟩

theorem call (w : World L) (c : StoreCall) : w.Sends [] (w.call c).2 := by
  obtain ⟨store, faults, writes, hcall⟩ := w.call_changes c
  rw [hcall]
  exact ⟨rfl, rfl, rfl⟩

theorem advance (w : World L) (time : Nat) : w.Sends [] (w.advance time) := by
  obtain ⟨store, faults, writes, heartbeats, hpassed⟩ := w.advance_changes time
  rw [hpassed]
  exact ⟨rfl, rfl, rfl⟩

end Sends

omit [LedgerService L] in
theorem advance_requests (w : World L) (time : ℕ) :
    (w.advance time).requests = w.requests := by
  obtain ⟨store, faults, writes, heartbeats, hpassed⟩ := w.advance_changes time
  rw [hpassed]

end World

namespace Run

variable {L : Type} [LedgerService L] {w w' : World L} {p : RetryPolicy} {q : Request}
  {outcome : ℕ → q.Reply} {attempt : ℕ}

theorem ask_apply (w : World L) (q : Request) :
    (ask q : Run L q.Reply) w = (.ok (replyAfter w.ledger q 0), (w.ask q).2) := rfl

/-- Sends a request, and again behind each of some waits. -/
def sendAfter (q : Request) : List Duration → Run L q.Reply
  | [] => ask q
  | delay :: rest => do
    let _ ← ask q
    wait delay
    sendAfter q rest

def sendTimes (start : ℕ) (delays : List Duration) : List ℕ :=
  delays.scanl (fun time delay => time + waitMillis delay) start

/-- The bound on the attempts that may follow is never what ends the loop. -/
theorem retryFrom_eq (h : attempt ≤ p.attempts) :
    (retryFrom p q (p.attempts - attempt) attempt : Run L q.Reply) =
      ask q >>= fun reply => match p.next? attempt reply with
        | some delay => wait delay >>= fun _ =>
          retryFrom p q (p.attempts - (attempt + 1)) (attempt + 1)
        | none => pure reply := by
  rcases hleft : p.attempts - attempt with _ | left
  · have hlast (reply : q.Reply) : p.next? attempt reply = none :=
      RetryPolicy.next?_of_final fun _ _ _ => by omega
    simp only [hlast, bind_pure]
    rfl
  · rw [show p.attempts - (attempt + 1) = left by omega]
    rfl

omit [LedgerService L] in
theorem wait_apply (delay : Duration) (w : World L) :
    wait delay w = waitUntil (w.clock + waitMillis delay) w := get_bind_apply _ w

theorem wait_ledger (delay : Duration) (w : World L) : (wait delay w).2.ledger = w.ledger := by
  obtain ⟨time, htime⟩ := exists_advance (w.clock + waitMillis delay) w
  rw [wait_apply, htime]
  exact (World.Sends.advance w time).ledger

theorem ask_outcome (h : ∀ k, replyAfter w.ledger q k = outcome (attempt + k)) :
    (ask q : Run L q.Reply) w = (.ok (outcome attempt), (w.ask q).2) := by
  rw [ask_apply, h 0]
  rfl

theorem ask_replies (h : ∀ k, replyAfter w.ledger q k = outcome (attempt + k)) (k : ℕ) :
    replyAfter (w.ask q).2.ledger q k = outcome (attempt + 1 + k) := by
  rw [Nat.add_right_comm, Nat.add_assoc]
  exact h (k + 1)

/-- From an attempt on, transient failures are waited behind until a reply stops the policy. -/
theorem retryFrom_sendAfter {m : ℕ}
    (hreplies : ∀ k, replyAfter w.ledger q k = outcome (attempt + k))
    (htransient : ∀ k, attempt ≤ k → k < attempt + m →
      ∃ cause, outcome k = .error cause ∧ cause.isTransient)
    (hroom : attempt + m ≤ p.attempts) (hstops : p.Stops outcome (attempt + m)) :
    retryFrom p q (p.attempts - attempt) attempt w =
      sendAfter q ((List.range' attempt m).map fun k => p.waitBehind k (outcome k)) w := by
  -- The attempts before the last one are counted down, each with the world that it finds.
  induction m generalizing w attempt with
  | zero =>
    have hask := ask_outcome hreplies
    have hwithin : attempt ≤ p.attempts := hroom
    have hnext : p.next? attempt (outcome attempt) = none := hstops.next?
    rw [retryFrom_eq hwithin, bind_apply_of_ok hask, hnext]
    exact hask.symm
  | succ m ih =>
    have hask := ask_outcome hreplies
    obtain ⟨cause, hcause, htr⟩ := htransient attempt (Nat.le_refl _) (by omega)
    have hnext : p.next? attempt (outcome attempt) =
        some (p.waitBehind attempt (outcome attempt)) := by
      rw [hcause, p.waitBehind_error]
      exact RetryPolicy.next?_of_transient htr (by omega)
    rw [retryFrom_eq (by omega), bind_apply_of_ok hask, hnext, List.range'_succ, List.map_cons,
      sendAfter, bind_apply_of_ok hask]
    dsimp only
    have hledger := wait_ledger (p.waitBehind attempt (outcome attempt)) (w.ask q).2
    rcases hwait : wait (p.waitBehind attempt (outcome attempt)) (w.ask q).2 with ⟨halt | _, w₁⟩
    · -- A deadline that comes within the wait ends both runs.
      rw [bind_apply_of_error hwait, bind_apply_of_error hwait]
    · rw [hwait] at hledger
      have hlater (k : ℕ) : replyAfter w₁.ledger q k = outcome (attempt + 1 + k) := by
        rw [hledger]
        exact ask_replies hreplies k
      rw [bind_apply_of_ok hwait, bind_apply_of_ok hwait]
      have hshift : attempt + (m + 1) = attempt + 1 + m := by omega
      rw [hshift] at htransient hroom hstops
      exact ih hlater (fun k hk => htransient k (by omega)) hroom hstops

theorem sendAfter_apply (hdeadline : w.deadline = none) (delays : List Duration) :
    ∃ w', sendAfter q delays w = (.ok (replyAfter w.ledger q delays.length), w') ∧
      w.Sends (List.replicate (delays.length + 1) q) w' ∧
      w'.requests =
        ((sendTimes w.clock delays).map fun time => (time, q)).reverse ++ w.requests := by
  induction delays generalizing w with
  | nil => exact ⟨(w.ask q).2, rfl, .ask w q, rfl⟩
  | cons delay rest ih =>
    let w₁ := (w.ask q).2.advance (w.clock + waitMillis delay)
    have hnone : (w.ask q).2.deadline = none := hdeadline
    have hwait : wait delay (w.ask q).2 = (.ok (), w₁) := by
      rw [wait_apply]
      exact waitUntil_apply hnone _
    have hsends : w.Sends [q] w₁ := (World.Sends.ask w q).trans (World.Sends.advance _ _)
    have hclock : w₁.clock = w.clock + waitMillis delay :=
      Nat.max_eq_right (Nat.le_add_right _ _)
    have hrequests : w₁.requests = (w.clock, q) :: w.requests := World.advance_requests _ _
    obtain ⟨w₂, hends, hsends₂, hsent⟩ := ih (hsends.deadline.trans hdeadline)
    refine ⟨w₂, ?_, hsends.trans hsends₂, ?_⟩
    · rw [sendAfter, bind_apply_of_ok (ask_apply w q), bind_apply_of_ok hwait, hends, hsends.ledger]
      rfl
    · rw [hsent, hclock, hrequests]
      simp [sendTimes]

/-- Whatever a service does, a run of the loop is a row of requests with waits between them. -/
theorem retry_eq_sendAfter {n : ℕ} (hn : IsLeast {n | 1 ≤ n ∧ p.Stops outcome n} n)
    (hreplies : ∀ k, replyAfter w.ledger q k = outcome (k + 1)) :
    retry p q w = sendAfter q (p.waits outcome n) w := by
  obtain ⟨hpos, hstops⟩ := hn.1
  have hwithin := RetryPolicy.le_attempts_of_isLeast hn
  have hsum : 1 + (n - 1) = n := by omega
  apply retryFrom_sendAfter
  · intro k
    rw [hreplies, Nat.add_comm]
  · intro k hk hkn
    exact RetryPolicy.transient_of_isLeast hn hk (by omega)
  · omega
  · rwa [hsum]

/-- Whatever comes back for a request, it is sent until the first reply that stops the policy, with
the waits of the policy between the attempts, and that reply is the result. -/
theorem retry_calls (p : RetryPolicy) (q : Request) (outcome : ℕ → q.Reply) :
    ∃ n, IsLeast {n | 1 ≤ n ∧ p.Stops outcome n} n ∧ n < UInt32.size ∧
      (∀ k, 1 ≤ k → k < n → ∃ cause, outcome k = .error cause ∧ cause.isTransient ∧
        p.waitBehind k (outcome k) = p.delayWithHint k cause.hint) ∧
      (∀ d ∈ p.waits outcome n, d.nanos ≤ p.maxDelay.nanos) ∧
      (∃ (L : Type) (_ : LedgerService L) (l : L), ∀ k, replyAfter l q k = outcome (k + 1)) ∧
      ∀ {L : Type} [LedgerService L] (w : World L),
        (∀ k, replyAfter w.ledger q k = outcome (k + 1)) →
          retry p q w = sendAfter q (p.waits outcome n) w ∧
          (w.deadline = none → ∃ w', retry p q w = (.ok (outcome n), w') ∧
            w'.requests.length = n + w.requests.length ∧
            w'.requests = ((sendTimes w.clock (p.waits outcome n)).map fun time =>
              (time, q)).reverse ++ w.requests) := by
  obtain ⟨n, hn⟩ := p.exists_isLeast_stops outcome
  have hwithin := RetryPolicy.le_attempts_of_isLeast hn
  have hlength := p.length_waits outcome n
  have hlast : n - 1 + 1 = n := Nat.sub_add_cancel hn.1.1
  refine ⟨n, hn, hwithin.trans_lt p.attempts_lt, fun k hk hkn => ?_, ?_,
    ⟨ReplyStream q, inferInstance, ⟨fun k => outcome (k + 1)⟩, ReplyStream.replyAfter_eq _⟩,
    fun w hreplies => ⟨retry_eq_sendAfter hn hreplies, fun hdeadline => ?_⟩⟩
  · obtain ⟨cause, hcause, htransient⟩ := RetryPolicy.transient_of_isLeast hn hk hkn
    refine ⟨cause, hcause, htransient, ?_⟩
    rw [hcause]
    exact p.waitBehind_error k cause
  · intro d hd
    obtain ⟨k, -, rfl⟩ := List.mem_map.mp hd
    exact p.waitBehind_le k _
  · obtain ⟨w', hends, hsends, hsent⟩ := sendAfter_apply hdeadline (p.waits outcome n)
    refine ⟨w', ?_, ?_, hsent⟩
    · rw [retry_eq_sendAfter hn hreplies, hends, hlength, hreplies, hlast]
    · have hcount := congrArg List.length hsends.requests
      simpa [hlength, hlast] using hcount

/-- A rate limit is waited for as long as it asks, and a timeout as long as the policy says. -/
example :
    let w : World ScriptedLedger :=
      { ledger := ⟨[some (.rateLimited (some (.ofMillis 800))), some (.timeout "")]⟩
        worker := { id := ⟨"w1", by decide⟩ }
        now := ⟨0, 0⟩ }
    (retry (.exponential 4 (.ofMillis 100) (.ofSecs 1)) .tip w).2.requests =
      [(1000, .tip), (800, .tip), (0, .tip)] := by
  decide +kernel

end Run

end GovernanceIndex
