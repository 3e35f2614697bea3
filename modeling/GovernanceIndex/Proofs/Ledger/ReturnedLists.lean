import GovernanceIndex.Proofs.Ledger.Exchanges
import GovernanceIndex.Proofs.Sync.CycleAccounts

/-!
What a service returns of the delegators of a delegate, told from the requests that it gets. Lookups
that run at once come to the list that was returned for their own delegate, however their pages lie
between those of the others and however often a page was refused before it was served.
-/
namespace GovernanceIndex

open LedgerService (behind)

/-- What a reply has of the delegators of a delegate, current ones or those of an epoch: the rows of
a page of them. A reply that refuses, or that is to another request, has none. -/
def Request.delegatorsIn (delegate : DelegateId) (epoch : Option Epoch) :
    (q : Request) → q.Reply → List Delegator
  | .page (.delegators d e) _, .ok batch => if d = delegate ∧ e = epoch then batch else []
  | _, _ => []

def Request.Seeks (epoch : Epoch) (q : Request) : Prop :=
  ∃ d p, q = .page (.delegators d (some epoch)) p

theorem Request.not_seeks {epoch : Epoch} {q : Request} (h : q.endpoint ≠ .drepDelegators) :
    ¬ q.Seeks epoch := by
  rintro ⟨d, p, rfl⟩
  exact h rfl

theorem Request.delegatorsIn_of_not_seeks {epoch : Epoch} {q : Request} (h : ¬ q.Seeks epoch)
    (delegate : DelegateId) (reply : q.Reply) :
    q.delegatorsIn delegate (some epoch) reply = [] := by
  unfold delegatorsIn
  split
  · next d e p batch =>
    apply if_neg
    rintro ⟨-, rfl⟩
    exact h ⟨d, p, rfl⟩
  · rfl

namespace LedgerService

variable {L : Type} [LedgerService L] {delegate : DelegateId} {epoch : Option Epoch}

/-- The delegators of a delegate that a service returns along requests, page after page. -/
def returned (delegate : DelegateId) (epoch : Option Epoch) : (l : L) → List Request → List Delegator
  | _, [] => []
  | l, q :: qs =>
    q.delegatorsIn delegate epoch (react l q).1 ++ returned delegate epoch (react l q).2 qs

theorem returned_append (l : L) (qs rs : List Request) :
    returned delegate epoch l (qs ++ rs) =
      returned delegate epoch l qs ++ returned delegate epoch (behind l qs) rs := by
  induction qs generalizing l with
  | nil => rfl
  | cons q qs ih =>
    rw [List.cons_append, returned, ih, ← List.append_assoc]
    rfl

theorem returned_concat (l : L) (qs : List Request) (q : Request) :
    returned delegate epoch l (qs ++ [q]) =
      returned delegate epoch l qs ++ q.delegatorsIn delegate epoch (react (behind l qs) q).1 := by
  rw [returned_append, returned, returned, List.append_nil]

theorem returned_eq_nil {epoch : Epoch} (l : L) {qs : List Request}
    (h : ∀ q ∈ qs, ¬ q.Seeks epoch) : returned delegate (some epoch) l qs = [] := by
  induction qs generalizing l with
  | nil => rfl
  | cons q qs ih =>
    obtain ⟨hq, hqs⟩ := List.forall_mem_cons.mp h
    rw [returned, Request.delegatorsIn_of_not_seeks hq, ih _ hqs, List.append_nil]

end LedgerService

open LedgerService (returned)

namespace PageRead

/-- What a reply is worth to a read: the rows of its page, and none if it refuses. -/
def gain {α : Type} (reply : Except LedgerError (List α)) : List α := reply.toOption.getD []

theorem receive_rows {l : Listing} (r : PageRead l) (reply : Except LedgerError (List l.Row)) :
    match r.receive reply with
    | .done (.ok rows) => rows = r.rows ++ gain reply
    | .done (.error _) => True
    | .goOn r' _ => r'.rows = r.rows ++ gain reply := by
  rcases reply with cause | batch
  · unfold receive
    rcases r.policy.next? r.attempt (.error cause : Except LedgerError (List l.Row)) with _ | delay
    · trivial
    · exact (List.append_nil r.rows).symm
  · unfold receive RetryPolicy.next?
    dsimp only
    rcases r.pagesLeft with _ | left
    · rfl
    · dsimp only
      cases r.page.isLast batch.length <;> rfl

end PageRead

namespace Lookup

variable {epoch : Option Epoch}

/-- What a lookup would come to if it ended with the rows that it has. -/
def soFar (x : Lookup epoch) : Found := ⟨x.delegate, .ok x.read.rows⟩

/-- The next request of a lookup. -/
abbrev next (x : Lookup epoch) : Request := .page (.delegators x.delegate epoch) x.read.page

/-- What the reply to the next request makes of a lookup. -/
def hear (x : Lookup epoch) (reply : Except LedgerError (List Delegator)) :
    Turn (Lookup epoch) Found :=
  match x.read.receive reply with
  | .done reply => .done ⟨x.delegate, reply⟩
  | .goOn read delay => .goOn ⟨x.delegate, read⟩ delay

theorem turn_apply {L : Type} [LedgerService L] (x : Lookup epoch) (w : World L) :
    (x.turn : Run L _) w = (.ok (x.hear (w.ask x.next).1), (w.ask x.next).2) := by
  have hturn : (x.read.turn : Run L _) w =
      (.ok (x.read.receive (w.ask x.next).1), (w.ask x.next).2) := rfl
  unfold turn hear
  rw [Run.bind_apply_of_ok hturn]
  rcases x.read.receive (w.ask x.next).1 with reply | ⟨read, delay⟩ <;> rfl

end Lookup

/-- What is known of a lookup behind a turn: its result, or the rows that it has so far. -/
def Turn.soFar {epoch : Option Epoch} : Turn (Lookup epoch) Found → Found
  | .done result => result
  | .goOn x _ => x.soFar

/-- Different delegates are looked up, and the rows found of each are those that a service returned
for it along requests. -/
structure Found.Returned {L : Type} [LedgerService L] (epoch : Option Epoch) (l : L)
    (qs : List Request) (xs : List Found) : Prop where
  distinct : (xs.map fun x => x.delegate).Nodup
  rows : ∀ x ∈ xs, ∀ rows, x.reply = .ok rows → rows = returned x.delegate epoch l qs

namespace Found.Returned

variable {L : Type} [LedgerService L] {epoch : Option Epoch} {l : L} {qs : List Request}
  {xs ys : List Found}

theorem perm (h : Returned epoch l qs xs) (hperm : ys.Perm xs) : Returned epoch l qs ys :=
  ⟨((hperm.map _).nodup_iff).mpr h.distinct, fun x hx => h.rows x (hperm.mem_iff.mp hx)⟩

/-- A turn of a lookup adds what it is replied to the rows of its delegate, and nothing to those of
the others. -/
theorem turn {x : Lookup epoch} (h : Returned epoch l qs (x.soFar :: xs)) :
    Returned epoch l (qs ++ [x.next])
      ((x.hear (LedgerService.react (behind l qs) x.next).1).soFar :: xs) := by
  generalize hreply : (LedgerService.react (behind l qs) x.next).1 = reply
  obtain ⟨hdistinct, hrows⟩ := h
  obtain ⟨hown, hothers⟩ := List.forall_mem_cons.mp hrows
  have hsoFar : x.read.rows = returned x.delegate epoch l qs := hown _ rfl
  have hfresh : x.delegate ∉ xs.map fun y => y.delegate := (List.nodup_cons.mp hdistinct).1
  have hdelegate : (x.hear reply).soFar.delegate = x.delegate := by
    unfold Lookup.hear
    split <;> rfl
  have hheard (d : DelegateId) : returned d epoch l (qs ++ [x.next]) =
      returned d epoch l qs ++ if x.delegate = d then PageRead.gain reply else [] := by
    rw [LedgerService.returned_concat, hreply]
    rcases reply with cause | batch
    · exact congrArg _ (ite_self _).symm
    · exact congrArg _ (if_congr (and_iff_left rfl) rfl rfl)
  refine ⟨?_, List.forall_mem_cons.mpr ⟨fun rows hr => ?_, fun y hy rows hr => ?_⟩⟩
  · rw [List.map_cons, hdelegate]
    exact hdistinct
  · have hreceived := x.read.receive_rows reply
    rw [hdelegate, hheard, if_pos rfl, ← hsoFar]
    unfold Lookup.hear at hr
    rcases hturn : x.read.receive reply with (cause | rows') | ⟨read, delay⟩ <;>
      rw [hturn] at hr hreceived <;> cases hr <;> exact hreceived
  · have hne : x.delegate ≠ y.delegate := by
      intro heq
      rw [heq] at hfresh
      exact hfresh (List.mem_map_of_mem hy)
    rw [hheard, if_neg hne, List.append_nil]
    exact hothers y hy rows hr

end Found.Returned

namespace FanOut

variable {epoch : Option Epoch}

/-- What is known of all lookups: the results, and the rows that the others have so far. -/
def found (f : FanOut (Lookup epoch) Found) : List Found :=
  f.finished.map Prod.snd ++ (f.inFlight.map (fun x => x.work.soFar) ++ f.pending.map Lookup.soFar)

theorem found_fill (f : FanOut (Lookup epoch) Found) (clock : Nat) :
    (f.fill clock).found = f.found := by
  have hsplit := List.take_append_drop (f.limit - f.inFlight.length) f.pending
  unfold found
  conv_rhs => rw [← hsplit]
  simp only [fill, List.map_append, List.map_map, Function.comp_def, List.append_assoc]

theorem found_settle (f : FanOut (Lookup epoch) Found) {item : InFlight (Lookup epoch)}
    {others : List (InFlight (Lookup epoch))} (htaken : f.inFlight.Perm (item :: others))
    (peak readyAt clock : Nat) (t : Turn (Lookup epoch) Found) :
    ∃ rest, f.found.Perm (item.work.soFar :: rest) ∧
      (({ f with inFlight := others, peak }).settle readyAt clock t).found.Perm
        (t.soFar :: rest) := by
  refine ⟨f.finished.map Prod.snd ++
    (others.map (fun x => x.work.soFar) ++ f.pending.map Lookup.soFar), ?_, ?_⟩
  · have hflight := htaken.map fun x => x.work.soFar
    exact ((hflight.append_right _).append_left _).trans List.perm_middle
  · rcases t with result | ⟨work, _ | delay⟩
    · have hended : ({ f with inFlight := others, peak }.settle readyAt clock (.done result)).found =
          (f.finished ++ [(clock, result)]).map Prod.snd ++
            (others.map (fun x => x.work.soFar) ++ f.pending.map Lookup.soFar) := rfl
      rw [hended, List.map_append, List.append_assoc]
      exact List.perm_middle
    · exact List.perm_middle
    · let next : InFlight (Lookup epoch) := ⟨clock + (delay + 1), true, work⟩
      have hwaits : ({ f with inFlight := others, peak }.settle readyAt clock
          (.goOn work (delay + 1))).found =
          f.finished.map Prod.snd ++ ((others ++ [next]).map (fun x => x.work.soFar) ++
            f.pending.map Lookup.soFar) := rfl
      rw [hwaits, List.map_append, List.append_assoc]
      exact (List.perm_middle.append_left _).trans List.perm_middle

end FanOut

namespace Run

variable {L : Type} [LedgerService L] {epoch : Option Epoch} {w₁ : World L}
  {f : FanOut (Lookup epoch) Found}

/-- Since a world, requests were sent along which the rows of the lookups were returned. -/
def Listens (w₁ : World L) (f : FanOut (Lookup epoch) Found) (w : World L) : Prop :=
  ∃ qs, w₁.Sends qs w ∧ Found.Returned epoch w₁.ledger qs f.found

theorem waitUntil_triple (w : World L) (time : Nat) :
    Triple (fun v => v = w) (waitUntil time) (fun _ v => w.Sends [] v) fun _ => True := by
  rintro w rfl
  obtain ⟨until', huntil⟩ := exists_advance time w
  rcases hr : waitUntil time w with ⟨_ | _, v⟩ <;> rw [hr] at huntil
  · trivial
  · obtain rfl : v = w.advance until' := huntil
    exact World.Sends.advance w until'

theorem lookupStep_listens (f : FanOut (Lookup epoch) Found) :
    Triple (Listens w₁ f) (f.step Lookup.turn)
      (fun next w => Listens w₁ (next.getD f) w) fun _ => True := by
  unfold FanOut.step
  apply Triple.getBind
  intro w
  dsimp only
  split
  · exact Triple.pure fun v hv => hv.2
  · next item others hnext =>
    have htaken := FanOut.next?_perm hnext
    apply Triple.naming
    rintro w ⟨rfl, qs, hsends, hreturned⟩
    apply Triple.bind (waitUntil_triple w _)
    intro _ v hv
    have hsends : w₁.Sends qs v := List.append_nil qs ▸ hsends.trans hv
    rw [bind_apply_of_ok (item.work.turn_apply v)]
    refine ⟨qs ++ [item.work.next], hsends.trans (.ask v _), ?_⟩
    obtain ⟨rest, hbefore, hafter⟩ := (f.fill w.clock).found_settle htaken
      (max (f.fill w.clock).peak ((others.filter fun other => other.begun).length + 1))
      item.readyAt (v.ask item.work.next).2.clock (item.work.hear (v.ask item.work.next).1)
    rw [FanOut.found_fill] at hbefore
    have hturn := (hreturned.perm hbefore.symm).turn
    rw [← hsends.ledger] at hturn
    exact hturn.perm hafter

theorem lookupGo_listens (turns : Nat) (f : FanOut (Lookup epoch) Found) :
    Triple (Listens w₁ f) (f.go Lookup.turn turns) (fun f' w => Listens w₁ f' w)
      fun _ => True := by
  induction turns generalizing f with
  | zero => exact Triple.pure fun _ hw => hw
  | succ turns ih =>
    apply Triple.bind (lookupStep_listens f)
    intro next
    rcases next with _ | f'
    · exact Triple.pure fun _ hw => hw
    · exact ih f'

/-- Lookups of different delegates that end each come to a failure or to the list that was returned
for their delegate along the requests that they sent. -/
theorem lookup_returned (c : Settings) (limit : Nat) {ids : List DelegateId} (hids : ids.Nodup)
    (w₁ : World L) :
    Triple (fun w => w = w₁) (Lookup.run c limit epoch ids)
      (fun found w => (found.map fun x => x.delegate).Perm ids ∧
        ∃ qs, w₁.Sends qs w ∧ Found.Returned epoch w₁.ledger qs found)
      fun _ => True := by
  have hended : Triple (fun w => w = w₁) (Lookup.run c limit epoch ids)
      (fun found _ => (found.map fun x => x.delegate).Perm ids) fun _ => True :=
    (lookup_delegates c limit epoch ids).pre fun _ _ => trivial
  have hlistens : Triple (fun w => w = w₁) (Lookup.run c limit epoch ids)
      (fun found w => ∃ qs, w₁.Sends qs w ∧ Found.Returned epoch w₁.ledger qs found)
      fun _ => True := by
    have hstart : Found.Returned epoch w₁.ledger []
        (FanOut.start limit (ids.map (Lookup.start c epoch)) : FanOut _ Found).found := by
      have hfound : (FanOut.start limit (ids.map (Lookup.start c epoch)) :
          FanOut (Lookup epoch) Found).found = ids.map fun d => ⟨d, .ok []⟩ := List.map_map
      rw [hfound]
      refine ⟨?_, List.forall_mem_map.mpr fun d _ rows hr => (Except.ok.inj hr).symm⟩
      rw [List.map_map]
      exact hids.map Function.injective_id
    have hbegin (w : World L) (hw : w = w₁) : Listens w₁
        (FanOut.start limit (ids.map (Lookup.start c epoch)) : FanOut (Lookup epoch) Found) w :=
      ⟨[], hw ▸ .refl w, hw ▸ hstart⟩
    apply Triple.bind ((lookupGo_listens _ _).pre hbegin)
    rintro f w ⟨qs, hsends, hreturned⟩
    have hpart : (f.finished.map Prod.snd).Sublist f.found := List.sublist_append_left _ _
    exact ⟨qs, hsends, (hpart.map _).nodup hreturned.distinct,
      fun x hx => hreturned.rows x (hpart.mem hx)⟩
  exact (hended.and hlistens).mono (fun _ => id) (fun _ _ => id) fun _ _ => trivial

end Run

end GovernanceIndex
