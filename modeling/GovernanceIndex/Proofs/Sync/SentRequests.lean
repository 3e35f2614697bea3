import GovernanceIndex.Proofs.Ledger.Exchanges
import GovernanceIndex.Proofs.Sync.GivenReplies

/-!
The requests that an action sends, told together with what becomes of the store. A request that is
answered in the end was sent in vain before, each time with a transient failure; reads of the store
send nothing.
-/
namespace GovernanceIndex

open LedgerService (behind replyAfter Concludes)

/-- A world that comes out of another one by requests, with a store that has a property. No call of
the store meets a fault and time does not run out, unless that may be. -/
structure World.Traced {L : Type} [LedgerService L] (mayFail : Prop) (w₀ : World L)
    (qs : List Request) (P : Store → Prop) (w : World L) : Prop where
  sound : mayFail ∨ w.Faultless ∧ w.deadline = none
  sends : w₀.Sends qs w
  store : P w.store

open World (Traced)

variable {L : Type} [LedgerService L] {mayFail : Prop} {w₀ w : World L} {qs : List Request}
  {P P' : Store → Prop}

theorem World.Traced.mono (h : Traced mayFail w₀ qs P w) (hP : P w.store → P' w.store) :
    Traced mayFail w₀ qs P' w := ⟨h.sound, h.sends, hP h.store⟩

theorem World.Traced.call (h : Traced mayFail w₀ qs P w) (k : StoreCall)
    (hP : P' (w.call k).2.store) : Traced mayFail w₀ qs P' (w.call k).2 := by
  have hcall := World.Sends.call w k
  have hsends := h.sends.trans hcall
  rw [List.append_nil] at hsends
  exact ⟨h.sound.imp id fun hw => ⟨hw.1.call k, hcall.deadline.trans hw.2⟩, hsends, hP⟩

/-- Nothing is requested, and the store keeps its property. -/
def tracedRegime (mayFail : Prop) (w₀ : World L) (qs : List Request)
    (hP : ∀ s s', Store.SameData s s' → P s → P s') : Regime L where
  permits _ := False
  answers _ _ := True
  holds := Traced mayFail w₀ qs P
  halts _ := mayFail
  ask _ _ hq _ := hq.elim
  read w k hk hw := by
    refine ⟨hw.call k ?_, fun cause hr => hw.sound.resolve_right fun hsound => ?_⟩
    · rw [World.call_store hk]
      exact hw.store
    · exact hsound.1.reads hk hr
  renew w job lease hw := hw.call _ (hP _ _ (w.renew_passes job lease).data hw.store)
  tick w clock heartbeats hw := ⟨hw.sound, ⟨hw.sends.1, hw.sends.2, hw.sends.3⟩, hw.store⟩
  late w hw hlate := by
    apply hw.sound.resolve_right
    intro hsound
    rw [hsound.2] at hlate
    cases hlate
  tip _ e _ _ := ⟨⟨e, none, none⟩, trivial, rfl⟩
  remember w _ _ hw := ⟨hw.sound, ⟨hw.sends.1, hw.sends.2, hw.sends.3⟩, hw.store⟩

namespace Run

theorem tracedCall {k : StoreCall} {Q : k.Result → Store → Prop} {effect : Store → k.Result × Store}
    (hk : ∀ s : Store, s.perform k = .ok (effect s))
    (hQ : ∀ s, P s → Q (effect s).1 (effect s).2) :
    Triple (Traced mayFail w₀ qs P) (call k : Run L k.Result) (fun r => Traced mayFail w₀ qs (Q r))
      fun _ => mayFail := by
  apply Triple.callTo hk
  · intro w hw hstore
    exact hw.call k (hstore ▸ hQ w.store hw.store)
  · intro w cause hw hr
    apply hw.sound.resolve_right
    intro hsound
    cases hr.symm.trans (hsound.1.answers (hk w.store))

theorem tracedRead {k : StoreCall} {g : Store → k.Result}
    (hk : ∀ s : Store, s.perform k = .ok (g s, s)) :
    Triple (Traced mayFail w₀ qs P) (call k : Run L k.Result)
      (fun r => Traced mayFail w₀ qs fun s => r = g s ∧ P s) fun _ => mayFail :=
  tracedCall hk fun _ hs => ⟨rfl, hs⟩

theorem tracedReadData {s₀ : Store} {k : StoreCall} {g : Store → k.Result}
    (hk : ∀ s : Store, s.perform k = .ok (g s, s)) (hg : ∀ s : Store, g s.data = g s) :
    Triple (Traced mayFail w₀ qs s₀.SameData) (call k : Run L k.Result)
      (fun r w => r = g s₀ ∧ Traced mayFail w₀ qs s₀.SameData w) fun _ => mayFail := by
  apply (tracedRead hk).post
  intro r w hw
  exact ⟨hw.store.1.trans (hw.store.2.eq g hg), hw.mono And.right⟩

variable (hP : ∀ s s', Store.SameData s s' → P s → P s')

theorem tracedAsk (q : Request) :
    Triple (Traced True w₀ qs P) (ask q : Run L q.Reply)
      (fun reply w => reply = (LedgerService.react (behind w₀.ledger qs) q).1 ∧
        Traced True w₀ (qs ++ [q]) P w) fun _ => True := by
  intro w hw
  refine ⟨?_, .inl trivial, hw.sends.trans (.ask w q), hw.store⟩
  rw [← hw.sends.ledger]
  rfl

include hP in
theorem tracedWait (delay : Duration) :
    Triple (Traced True w₀ qs P) (wait delay : Run L Unit) (fun _ => Traced True w₀ qs P)
      fun _ => True := by
  have hwait := ((tracedRegime True w₀ qs hP).wait delay).outcomes
  exact hwait.mono (fun _ => id) (fun _ _ hw => hw.2) fun _ _ _ => trivial

include hP in
/-- Requests with waits between them are sent one after the other. -/
theorem tracedSendAfter (q : Request) (delays : List Duration) :
    Triple (Traced True w₀ qs P) (sendAfter q delays : Run L q.Reply)
      (fun reply w => reply = replyAfter (behind w₀.ledger qs) q delays.length ∧
        Traced True w₀ (qs ++ List.replicate (delays.length + 1) q) P w) fun _ => True := by
  induction delays generalizing qs with
  | nil => exact tracedAsk q
  | cons delay rest ih =>
    apply Triple.bind (tracedAsk q)
    intro _
    apply Triple.bind ((tracedWait hP delay).pre fun _ hw => hw.2)
    intro _
    apply ih.post
    intro reply w hw
    rwa [LedgerService.behind_append, List.append_assoc] at hw

include hP in
/-- A request is sent in vain, each time with a transient failure, before it comes to its last
reply. -/
theorem tracedRetry (p : RetryPolicy) (q : Request) :
    Triple (Traced True w₀ qs P) (retry p q : Run L q.Reply)
      (fun reply w => ∃ n, Concludes p (behind w₀.ledger qs) q n reply ∧
        Traced True w₀ (qs ++ List.replicate (n + 1) q) P w) fun _ => True := by
  obtain ⟨n, r, hlast⟩ := LedgerService.exists_concludes p (behind w₀.ledger qs) q
  let outcome (k : Nat) : q.Reply := replyAfter (behind w₀.ledger qs) q (k - 1)
  intro w hw
  have hrun : retry p q w = sendAfter q (p.waits outcome (n + 1)) w := by
    apply retry_eq_sendAfter hlast.isLeast
    intro k
    rw [hw.sends.ledger]
    rfl
  have hsent := tracedSendAfter hP q (p.waits outcome (n + 1)) w hw
  rw [RetryPolicy.length_waits, Nat.add_sub_cancel, hlast.reply, ← hrun] at hsent
  rcases hr : retry p q w with ⟨_ | reply, w'⟩ <;> rw [hr] at hsent
  · trivial
  · obtain ⟨rfl, htraced⟩ := hsent
    exact ⟨n, hlast, htraced⟩

include hP in
theorem tracedRequest (c : Settings) (q : Request) :
    Triple (Traced True w₀ qs P) (request c q : Run L q.Answer)
      (fun a w => ∃ n, Concludes c.retry (behind w₀.ledger qs) q n (.ok a) ∧
        Traced True w₀ (qs ++ List.replicate (n + 1) q) P w) fun _ => True := by
  apply Triple.bind (tracedRetry hP c.retry q)
  intro reply
  rcases reply with cause | a
  · exact Triple.throw fun _ _ => trivial
  · exact Triple.pure fun _ => id

end Run

end GovernanceIndex
