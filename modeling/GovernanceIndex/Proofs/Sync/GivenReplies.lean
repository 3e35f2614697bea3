import GovernanceIndex.Proofs.Ledger.View
import GovernanceIndex.Proofs.Run.Outcomes
import GovernanceIndex.Proofs.Sync.Backlog
import GovernanceIndex.Proofs.Sync.CycleRule

/-!
Reading a service that gives every request one reply. What a read comes to is then a function of the
replies, failures included: it depends neither on how often a request is sent again nor on how many
lookups run beside each other, apart from the order in which lookups end. Where the store may fail
or time may run out, a read halts for that at most.
-/
namespace GovernanceIndex

open LedgerService (Reacts)

/-- What a service replies to each request. -/
abbrev Replies := (q : Request) → q.Reply

namespace Replies

variable (f : Replies)

def rowsFrom (l : Listing) : (left : Nat) → Page → Except LedgerError (List l.Row)
  | 0, p => f (.page l p)
  | left + 1, p => do
    let batch ← f (.page l p)
    if p.isLast batch.length then return batch
    else return batch ++ (← rowsFrom l left p.next)

def rows (pageSize : Nat) (l : Listing) : Except LedgerError (List l.Row) :=
  f.rowsFrom l (PageRead.pagesBehind (.first pageSize)) (.first pageSize)

def inventory (c : Settings) (epoch : Epoch) : Except LedgerError (List DelegateSnapshot) := do
  let listed ← f.rows c.pageSize .delegates
  let infos ← (batches c.infoBatchSize (listed.map fun d => d.delegate)).mapM
    fun ids => f (.delegateInfo ids)
  let powers ← f.rows c.pageSize (.delegatePower epoch)
  return Inventory.merge epoch listed infos.flatten powers

def found (pageSize : Nat) (epoch : Option Epoch) (ids : List DelegateId) : List Found :=
  ids.map fun d => ⟨d, f.rows pageSize (.delegators d epoch)⟩

def knownTip (k : JobCache) : Except LedgerError Epoch :=
  match k.tip with
  | some epoch => .ok epoch
  | none => do return (← f .tip).epoch

/-- The inventory of an epoch, as remembered, as stored or as replied. -/
def inventoryOver (c : Settings) (s : Store) (k : JobCache) (epoch : Epoch) :
    Except LedgerError (List DelegateSnapshot) :=
  match k.inventories.get? epoch with
  | some rows => .ok rows
  | none => if (s.snapshotsOf epoch).isEmpty then f.inventory c epoch else .ok (s.snapshotsOf epoch)

/-- A reply as the outcome of an action. -/
def halting {α : Type} (r : Except LedgerError α) : Except Halt α :=
  r.mapError fun cause => .failed (.ledger cause)

/-- What a cycle observes: its epoch, and what its lookups come to. -/
def observed (c : Settings) (s : Store) (k : JobCache) : Except Halt (Epoch × List Found) := do
  let tip ← halting (f.knownTip k)
  match tip.prev? with
  | none => throw (.failed (.noCompletedEpoch tip))
  | some epoch =>
    let rows ← halting (f.inventoryOver c s k epoch)
    return (epoch, f.found c.pageSize none (Inventory.targets rows))

end Replies

/-- What is remembered once an inventory was read. -/
def JobCache.recall (k : JobCache) (epoch : Epoch) (rows : List DelegateSnapshot) : JobCache :=
  match k.inventories.get? epoch with
  | some _ => k
  | none => { k with inventories := k.inventories.insert epoch rows }

/-- A world whose service gives the replies, in each of its states, which have a property. It has the
data of a store and what is remembered. No call of the store meets a fault and time does not run
out, unless that may be. -/
structure World.Replying {L : Type} [LedgerService L] (X : L → Prop) (mayFail : Prop) (f : Replies)
    (s : Store) (k : JobCache) (w : World L) : Prop where
  serves : ∀ l, Reacts w.ledger l → (∀ q, (LedgerService.react l q).1 = f q) ∧ X l
  sound : mayFail ∨ w.Faultless ∧ w.deadline = none
  data : s.SameData w.store
  cache : w.cache = k

open World (Replying)

variable {L α β : Type} [LedgerService L] {X : L → Prop} {mayFail : Prop} {f : Replies} {s : Store}
  {k : JobCache}

namespace World

variable {w : World L}

theorem Replying.call (h : w.Replying X mayFail f s k) (c : StoreCall) {s' : Store}
    (hs : s'.SameData (w.call c).2.store) : (w.call c).2.Replying X mayFail f s' k := by
  have hsound : mayFail ∨ (w.call c).2.Faultless ∧ w.deadline = none :=
    h.sound.imp id fun hsound => ⟨hsound.1.call c, hsound.2⟩
  obtain ⟨store, faults, writes, hcall⟩ := w.call_changes c
  rw [hcall] at hsound hs ⊢
  exact ⟨h.serves, hsound, hs, h.cache⟩

theorem Replying.ask (h : w.Replying X mayFail f s k) (q : Request) :
    (w.ask q).1 = f q ∧ (w.ask q).2.Replying X mayFail f s k := by
  have hstep : Reacts w.ledger (LedgerService.react w.ledger q).2 :=
    Relation.ReflTransGen.single ⟨q, rfl⟩
  refine ⟨(h.serves w.ledger (refl_of Reacts w.ledger)).1 q, ?_⟩
  exact ⟨fun l hl => h.serves l (trans_of Reacts hstep hl), h.sound, h.data, h.cache⟩

theorem Replying.advance (h : w.Replying X mayFail f s k) (time : Nat) :
    (w.advance time).Replying X mayFail f s k := by
  have hbeats : ((w.beats time).foldl World.beat w).Replying X mayFail f s k :=
    List.foldlRecOn _ _ h fun v hv b _ =>
      hv.call _ (trans_of Store.SameData hv.data (v.renew_passes b.job b.lease).data)
  exact ⟨hbeats.serves, hbeats.sound, hbeats.data, hbeats.cache⟩

omit [LedgerService L] in
theorem Faultless.call_apply (h : w.Faultless) {c : StoreCall} {effect : Store → c.Result × Store}
    (hc : ∀ s : Store, s.perform c = .ok (effect s)) :
    ∃ v, Run.call c w = (.ok (effect w.store).1, v) ∧ v = (w.call c).2 ∧
      v.store = (effect w.store).2 := by
  have hanswer := h.answers (hc w.store)
  rw [Run.call_eq]
  rcases w.call_cases c with ⟨r, v, hr, hp⟩ | ⟨cause, v, hr, -⟩ <;> rw [hr] at hanswer ⊢
  · rw [hc] at hp
    obtain ⟨rfl, hstore⟩ := Prod.mk.inj (Except.ok.inj hp)
    exact ⟨v, rfl, rfl, hstore.symm⟩
  · cases hanswer

end World

namespace Run

/-- An action comes to a reply and keeps what holds, unless it may fail otherwise. -/
def Comes (mayFail : Prop) (P : World L → Prop) (m : Run L α) (r : Except LedgerError α) : Prop :=
  Outcomes P m (fun a w => r = .ok a ∧ P w)
    (fun halt w => mayFail ∨ Replies.halting r = .error halt ∧ P w)

namespace Comes

variable {P : World L → Prop} {m : Run L α} {r : Except LedgerError α}

omit [LedgerService L] in
theorem pure (a : α) : Comes mayFail P (pure a : Run L α) (.ok a) :=
  Outcomes.pure fun _ hw => ⟨rfl, hw⟩

omit [LedgerService L] in
theorem bind {g : α → Run L β} {r' : α → Except LedgerError β} (hm : Comes mayFail P m r)
    (hg : ∀ a, r = .ok a → Comes mayFail P (g a) (r' a)) :
    Comes mayFail P (m >>= g) (r >>= r') := by
  apply Outcomes.bind (hm.mono (fun _ => id) (fun _ _ => id) ?_)
  · intro a
    apply Outcomes.assuming
    rintro rfl
    exact hg a rfl
  · rintro halt w (hfail | ⟨hr, hw⟩)
    · exact .inl hfail
    · rcases r with cause | a
      · obtain rfl := Except.error.inj hr
        exact .inr ⟨rfl, hw⟩
      · cases hr

omit [LedgerService L] in
theorem mapM {g : α → Run L β} {r : α → Except LedgerError β} (hg : ∀ a, Comes mayFail P (g a) (r a))
    (xs : List α) : Comes mayFail P (xs.mapM g) (xs.mapM r) := by
  induction xs with
  | nil => exact pure []
  | cons x xs ih =>
    rw [List.mapM_cons, List.mapM_cons]
    exact bind (hg x) fun y _ => bind ih fun ys _ => pure _

omit [LedgerService L] in
theorem of_triple {reply : Except LedgerError α} {n : Run L (Except LedgerError α)}
    (h : Triple P n (fun r w => r = reply ∧ P w) fun _ => mayFail)
    {g : Except LedgerError α → Run L α}
    (hok : ∀ a, g (.ok a) = Pure.pure a) (herror : ∀ cause, g (.error cause) = fail (.ledger cause)) :
    Comes mayFail P (n >>= g) reply := by
  apply Outcomes.bind (Outcomes.of_triple_mono h fun _ _ => .inl)
  intro r
  apply Outcomes.assuming
  rintro rfl
  rcases r with cause | a
  · rw [herror]
    exact Outcomes.throw fun w hw => .inr ⟨rfl, hw⟩
  · rw [hok]
    exact Outcomes.pure fun w hw => ⟨rfl, hw⟩

end Comes

theorem givenWaitUntil (time : Nat) :
    Triple (Replying X mayFail f s k) (waitUntil time : Run L Unit)
      (fun _ => Replying X mayFail f s k) fun _ => mayFail := by
  intro w hw
  unfold waitUntil
  rw [get_bind_apply]
  rcases hdeadline : w.deadline with _ | deadline
  · exact hw.advance time
  · have hfail : mayFail := by
      refine hw.sound.resolve_right fun hsound => ?_
      rw [hsound.2] at hdeadline
      cases hdeadline
    dsimp only
    by_cases htime : time ≤ deadline
    · rw [if_pos htime]
      exact hw.advance time
    · rw [if_neg htime]
      exact hfail

theorem givenAsk (q : Request) :
    Triple (Replying X mayFail f s k) (ask q : Run L q.Reply)
      (fun reply w => reply = f q ∧ Replying X mayFail f s k w) fun _ => mayFail :=
  fun _ hw => hw.ask q

theorem givenRetry (p : RetryPolicy) (q : Request) (left attempt : Nat) :
    Triple (Replying X mayFail f s k) (retryFrom p q left attempt : Run L q.Reply)
      (fun reply w => reply = f q ∧ Replying X mayFail f s k w) fun _ => mayFail := by
  induction left generalizing attempt with
  | zero => exact givenAsk q
  | succ left ih =>
    apply Triple.bind (givenAsk q)
    intro reply
    apply Triple.assuming
    rintro rfl
    split
    · apply Triple.bind (Q := fun _ => Replying X mayFail f s k)
      · exact Triple.getBind fun w => (givenWaitUntil _).pre fun _ hw => hw.2
      · exact fun _ => ih _
    · exact Triple.pure fun _ hw => ⟨rfl, hw⟩

theorem givenRequest (c : Settings) (q : Request) :
    Comes mayFail (Replying X mayFail f s k) (request c q : Run L q.Answer) (f q) :=
  Comes.of_triple (givenRetry c.retry q _ _) (fun _ => rfl) fun _ => rfl

end Run

namespace PageRead

variable {l : Listing} {result : Except LedgerError (List l.Row)}

/-- A read of a listing that is on the way to what it comes to. -/
def Leads (f : Replies) (result : Except LedgerError (List l.Row)) (r : PageRead l) : Prop :=
  (f.rowsFrom l r.pagesLeft r.page).map (fun rest => r.rows ++ rest) = result

theorem start_leads (f : Replies) (policy : RetryPolicy) (pageSize : Nat) :
    Leads f (f.rows pageSize l) (start l policy pageSize) := by
  unfold Leads start Replies.rows
  rcases f.rowsFrom l (pagesBehind (.first pageSize)) (.first pageSize) with _ | _ <;> rfl

theorem rowsFrom_of_error {f : Replies} {p : Page} {cause : LedgerError}
    (h : f (.page l p) = .error cause) (left : Nat) : f.rowsFrom l left p = .error cause := by
  cases left with
  | zero => exact h
  | succ left =>
    rw [Replies.rowsFrom, h]
    rfl

theorem rowsFrom_of_ok {f : Replies} {p : Page} {batch : List l.Row}
    (h : f (.page l p) = .ok batch) (left : Nat) :
    f.rowsFrom l (left + 1) p = if p.isLast batch.length then .ok batch
      else (f.rowsFrom l left p.next).map fun rest => batch ++ rest := by
  rw [Replies.rowsFrom, h]
  change (if p.isLast batch.length then _ else _) = _
  split
  · rfl
  · rcases f.rowsFrom l left p.next with _ | _ <;> rfl

/-- The reply to the next request ends a read with what it comes to, or leads on to that. -/
theorem receive_leads {r : PageRead l} (h : r.Leads f result) :
    FanOut.Proceeds (fun _ => ()) (Leads f result) (fun _ reply => reply = result) rank r
      (r.receive (f (.page l r.page))) := by
  unfold Leads at h
  have hreceived := r.received (f (.page l r.page))
  rcases hreply : f (.page l r.page) with cause | batch <;> rw [hreply] at hreceived
  · rw [rowsFrom_of_error hreply] at h
    rcases hturn : r.receive (.error cause) with reply | ⟨r', delay⟩ <;> rw [hturn] at hreceived
    · cases hreceived with
      | refused => exact h
    · refine ⟨rfl, ?_, receive_rank hturn⟩
      cases hreceived with
      | again =>
        unfold Leads
        dsimp only
        rw [rowsFrom_of_error hreply]
        exact h
  · rcases hturn : r.receive (.ok batch) with reply | ⟨r', delay⟩ <;> rw [hturn] at hreceived
    · cases hreceived with
      | ended hlast =>
        rw [← h]
        rcases hleft : r.pagesLeft with _ | left
        · rw [Replies.rowsFrom, hreply]
          rfl
        · rw [rowsFrom_of_ok hreply, if_pos (hlast.resolve_left (by simp [hleft]))]
          rfl
    · refine ⟨rfl, ?_, receive_rank hturn⟩
      cases hreceived with
      | @continued _ left hleft hfull =>
        rw [hleft, rowsFrom_of_ok hreply, if_neg hfull] at h
        rw [← h]
        unfold Leads
        dsimp only
        rcases f.rowsFrom l left r.page.next with _ | rest
        · rfl
        · exact congrArg Except.ok (List.append_assoc r.rows batch rest)

end PageRead

namespace Run

theorem givenTurn {l : Listing} {result : Except LedgerError (List l.Row)} {r : PageRead l}
    (h : r.Leads f result) :
    Triple (Replying X mayFail f s k) (r.turn : Run L _)
      (fun turn w => FanOut.Proceeds (fun _ => ()) (PageRead.Leads f result)
        (fun _ reply => reply = result) PageRead.rank r turn ∧ Replying X mayFail f s k w)
      fun _ => mayFail := by
  apply Triple.bind (givenAsk (.page l r.page))
  intro reply
  apply Triple.assuming
  rintro rfl
  exact Triple.pure fun w hw => ⟨PageRead.receive_leads h, hw⟩

theorem givenPages {l : Listing} {result : Except LedgerError (List l.Row)} (turns : Nat)
    {r : PageRead l} (h : r.Leads f result) (hturns : r.rank < turns) :
    Triple (Replying X mayFail f s k) (PageRead.go turns r : Run L _)
      (fun reply w => reply = result ∧ Replying X mayFail f s k w) fun _ => mayFail := by
  induction turns generalizing r with
  | zero => exact absurd hturns (Nat.not_lt_zero _)
  | succ turns ih =>
    apply Triple.bind (givenTurn h)
    intro turn
    apply Triple.assuming
    intro hturn
    rcases turn with reply | ⟨r', delay⟩
    · exact Triple.pure fun w hw => ⟨hturn, hw⟩
    · obtain ⟨-, hleads, hrank⟩ := hturn
      apply Triple.getBind
      intro w
      apply Triple.bind ((givenWaitUntil _).pre fun _ hw => hw.2)
      exact fun _ => ih hleads (Nat.lt_of_lt_of_le hrank (Nat.lt_succ_iff.mp hturns))

theorem givenListing (c : Settings) (l : Listing) :
    Comes mayFail (Replying X mayFail f s k) (listing c l : Run L (List l.Row))
      (f.rows c.pageSize l) := by
  have hleads : (PageRead.start l c.retry c.pageSize).Leads f (f.rows c.pageSize l) :=
    PageRead.start_leads f c.retry c.pageSize
  exact Comes.of_triple (givenPages _ hleads (Nat.lt_succ_self _)) (fun _ => rfl) fun _ => rfl

theorem givenFetchInventory (c : Settings) (epoch : Epoch) :
    Comes mayFail (Replying X mayFail f s k)
      (fetchInventory c epoch : Run L (List DelegateSnapshot)) (f.inventory c epoch) := by
  have hinfos (ids : List DelegateId) :
      Comes mayFail (Replying X mayFail f s k) (delegateInfo c ids : Run L (List DelegateInfo))
        ((batches c.infoBatchSize ids).mapM (fun ids => f (.delegateInfo ids)) >>=
          fun infos => .ok infos.flatten) :=
    Comes.bind (Comes.mapM (fun batch => givenRequest c (.delegateInfo batch)) _)
      fun infos _ => Comes.pure _
  have hall := Comes.bind (givenListing (X := X) (f := f) (s := s) (k := k) c .delegates)
    fun listed _ => Comes.bind (hinfos (listed.map fun d => d.delegate))
      fun infos _ => Comes.bind (givenListing c (.delegatePower epoch))
        fun powers _ => Comes.pure (Inventory.merge epoch listed infos powers)
  simp only [bind_assoc] at hall
  unfold fetchInventory fetchDelegates
  simp only [bind_assoc, pure_bind]
  exact hall

theorem givenLookup (c : Settings) (limit : Nat) (epoch : Option Epoch) (ids : List DelegateId) :
    Triple (Replying X mayFail f s k) (Lookup.run c limit epoch ids : Run L (List Found))
      (fun found w => found.Perm (f.found c.pageSize epoch ids) ∧ Replying X mayFail f s k w)
      fun _ => mayFail := by
  have hturn (x : Lookup epoch)
      (hx : x.read.Leads f (f.rows c.pageSize (.delegators x.delegate epoch))) :
      Triple (Replying X mayFail f s k) (x.turn : Run L _) (fun turn w =>
        FanOut.Proceeds (fun x => x.delegate)
          (fun x => x.read.Leads f (f.rows c.pageSize (.delegators x.delegate epoch)))
          (fun d (y : Found) => ⟨d, f.rows c.pageSize (.delegators d epoch)⟩ = y)
          (fun x => x.read.rank) x turn ∧ Replying X mayFail f s k w) fun _ => mayFail := by
    apply Triple.bind (givenTurn hx)
    intro turn
    apply Triple.assuming
    intro hturn
    rcases turn with reply | ⟨read, delay⟩
    · obtain rfl : reply = _ := hturn
      exact Triple.pure fun w hw => ⟨rfl, hw⟩
    · exact Triple.pure fun w hw => ⟨⟨rfl, hturn.2⟩, hw⟩
  have hstart (x : Lookup epoch) (hx : x ∈ ids.map (Lookup.start c epoch)) :
      x.read.Leads f (f.rows c.pageSize (.delegators x.delegate epoch)) := by
    obtain ⟨d, -, rfl⟩ := List.mem_map.mp hx
    exact PageRead.start_leads f c.retry c.pageSize
  apply Triple.bind (FanOut.run_triple givenWaitUntil hturn limit hstart)
  intro fanOut
  refine Triple.pure fun w hw => ⟨?_, hw.2⟩
  obtain ⟨⟨ended, hended, hperm⟩, -⟩ := hw
  have hfound : ended.map (fun d => (⟨d, f.rows c.pageSize (.delegators d epoch)⟩ : Found)) =
      fanOut.finished.map Prod.snd := by
    rw [← List.forall₂_eq_eq_eq, List.forall₂_map_left_iff]
    exact hended
  rw [← hfound]
  rw [List.map_map] at hperm
  exact List.Perm.map _ (by simpa [Lookup.start, Function.comp_def] using hperm)

theorem givenCall {c : StoreCall} {effect : Store → c.Result × Store} {s' : Store}
    (hc : ∀ s : Store, s.perform c = .ok (effect s))
    (heffect : ∀ v, s.SameData v → s'.SameData (effect v).2) :
    Outcomes (Replying X mayFail f s k) (call c : Run L c.Result)
      (fun r w => (∃ v, s.SameData v ∧ r = (effect v).1) ∧ Replying X mayFail f s' k w)
      (fun _ _ => mayFail) := by
  apply Outcomes.triple_iff.mp
  apply Triple.callTo hc
  · intro w hw hstore
    exact ⟨⟨w.store, hw.data, rfl⟩, hw.call c (hstore ▸ heffect w.store hw.data)⟩
  · intro w cause hw hr
    apply hw.sound.resolve_right
    intro hsound
    cases hr.symm.trans (hsound.1.answers (hc w.store))

theorem givenRead {c : StoreCall} {g : Store → c.Result}
    (hc : ∀ s : Store, s.perform c = .ok (g s, s)) (hg : ∀ s : Store, g s.data = g s) :
    Comes mayFail (Replying X mayFail f s k) (call c : Run L c.Result) (.ok (g s)) := by
  have hcall : Outcomes (Replying X mayFail f s k) (call c : Run L c.Result)
      (fun r w => (∃ v, s.SameData v ∧ r = g v) ∧ Replying X mayFail f s k w)
      (fun _ _ => mayFail) := givenCall hc fun _ => id
  apply hcall.mono (fun _ => id) _ fun _ _ => .inl
  rintro r w ⟨⟨v, hv, rfl⟩, hw⟩
  exact ⟨congrArg Except.ok (hv.eq g hg).symm, hw⟩

theorem givenRemember (epoch : Epoch) (rows : List DelegateSnapshot) {E : Halt → World L → Prop} :
    Outcomes (Replying X mayFail f s k) (rememberInventory epoch rows : Run L Unit)
      (fun _ => Replying X mayFail f s
        { k with inventories := k.inventories.insert epoch rows }) E :=
  fun _ hw => ⟨hw.serves, hw.sound, hw.data,
    congrArg (fun k : JobCache => { k with inventories := k.inventories.insert epoch rows })
      hw.cache⟩

theorem givenKnownTip (c : Settings) :
    Outcomes (Replying X mayFail f s k) (knownTip c : Run L Epoch)
      (fun e w => f.knownTip k = .ok e ∧ Replying X mayFail f s { k with tip := some e } w)
      (fun halt w => mayFail ∨ Replies.halting (f.knownTip k) = .error halt ∧
        Replying X mayFail f s k w) := by
  unfold knownTip
  apply Outcomes.getBind
  intro w₀ hw₀
  rw [hw₀.cache]
  split
  · next e htip =>
    refine Outcomes.pure fun w hw => ⟨by rw [Replies.knownTip, htip], ?_⟩
    rw [← htip]
    exact hw
  · next htip =>
    have htipReply : Comes mayFail (Replying X mayFail f s k) (Run.tip c : Run L Epoch)
        (f.knownTip k) := by
      rw [Replies.knownTip, htip]
      exact Comes.bind (givenRequest c .tip) fun a _ => Comes.pure a.epoch
    apply Outcomes.bind htipReply
    intro e
    apply Outcomes.assuming
    intro hreply w hw
    exact ⟨hreply, hw.serves, hw.sound, hw.data,
      congrArg (fun k : JobCache => { k with tip := some e }) hw.cache⟩

theorem givenInventory (c : Settings) (epoch : Epoch) :
    Outcomes (Replying X mayFail f s k) (inventory c epoch : Run L (List DelegateSnapshot))
      (fun rows w => f.inventoryOver c s k epoch = .ok rows ∧
        Replying X mayFail f s (k.recall epoch rows) w)
      (fun halt w => mayFail ∨ Replies.halting (f.inventoryOver c s k epoch) = .error halt ∧
        Replying X mayFail f s k w) := by
  unfold inventory
  apply Outcomes.getBind
  intro w₀ hw₀
  rw [hw₀.cache]
  unfold Replies.inventoryOver JobCache.recall
  rcases hknown : k.inventories.get? epoch with _ | rows
  · have hremember {rows : List DelegateSnapshot} {r : Except LedgerError (List DelegateSnapshot)}
        (hr : r = .ok rows) :
        Outcomes (Replying X mayFail f s k) (do
          rememberInventory epoch rows
          return rows : Run L (List DelegateSnapshot))
        (fun rows w => r = .ok rows ∧ Replying X mayFail f s
          { k with inventories := k.inventories.insert epoch rows } w)
        (fun halt w => mayFail ∨ Replies.halting r = .error halt ∧
          Replying X mayFail f s k w) := by
      apply Outcomes.bind (givenRemember epoch rows)
      exact fun _ => Outcomes.pure fun w hw => ⟨hr, hw⟩
    apply Outcomes.bind ((givenRead (g := fun s => s.snapshotsOf epoch) (fun _ => rfl)
      fun _ => rfl).mono (fun _ => id) (fun _ _ => id) fun _ _ h => h.imp id fun h => nomatch h.1)
    intro stored
    apply Outcomes.assuming
    intro hstored
    obtain rfl := Except.ok.inj hstored
    split
    · apply Outcomes.bind (givenFetchInventory c epoch)
      intro rows
      apply Outcomes.assuming
      exact fun hrows => hremember hrows
    · exact hremember rfl
  · exact Outcomes.pure fun w hw => ⟨rfl, hw⟩

/-- What a cycle aims at: its epoch, and the delegates that it looks up. -/
def aim (c : Settings) : Run L (Epoch × List DelegateId) := do
  let epoch ← latestCompleted c
  return (epoch, Inventory.targets (← inventory c epoch))

theorem observe_eq (c : Settings) :
    (observe c : Run L (Epoch × List Found)) = aim c >>= fun a =>
      Lookup.run c c.delegationConcurrency none a.2 >>= fun found => Pure.pure (a.1, found) := by
  simp only [observe, aim, bind_assoc, pure_bind]

theorem givenAim (c : Settings) :
    Outcomes (Replying X mayFail f s k) (aim c : Run L (Epoch × List DelegateId))
      (fun a w => f.observed c s k = .ok (a.1, f.found c.pageSize none a.2) ∧
        ∃ k', Replying X mayFail f s k' w)
      (fun halt w => mayFail ∨ f.observed c s k = .error halt ∧
        ∃ k', Replying X mayFail f s k' w) := by
  have htip : Outcomes (Replying X mayFail f s k) (latestCompleted c : Run L Epoch)
      (fun epoch w => ∃ tip, f.knownTip k = .ok tip ∧ tip.prev? = some epoch ∧
        Replying X mayFail f s { k with tip := some tip } w)
      (fun halt w => mayFail ∨ f.observed c s k = .error halt ∧
        ∃ k', Replying X mayFail f s k' w) := by
    apply Outcomes.bind ((givenKnownTip c).mono (fun _ => id) (fun _ _ => id) _)
    · intro tip
      apply Outcomes.assuming
      intro htip
      split
      · next epoch hepoch => exact Outcomes.pure fun w hw => ⟨tip, htip, hepoch, hw⟩
      · next hnone =>
        refine Outcomes.throw fun w hw => .inr ⟨?_, _, hw⟩
        unfold Replies.observed
        rw [htip]
        change (match tip.prev? with | none => _ | some epoch => _) = _
        rw [hnone]
        rfl
    · rintro halt w (hfail | ⟨hhalt, hw⟩)
      · exact .inl hfail
      · refine .inr ⟨?_, k, hw⟩
        unfold Replies.observed
        rw [hhalt]
        rfl
  unfold aim
  apply Outcomes.bind htip
  rintro epoch w ⟨tip, htip, hepoch, hw⟩
  refine (?_ : Outcomes (Replying X mayFail f s { k with tip := some tip }) _ _ _) w hw
  have hobserved : f.observed c s k =
      Replies.halting (f.inventoryOver c s k epoch) >>= fun rows =>
        .ok (epoch, f.found c.pageSize none (Inventory.targets rows)) := by
    unfold Replies.observed
    rw [htip]
    change (match tip.prev? with | none => _ | some epoch => _) = _
    rw [hepoch]
    rfl
  rw [hobserved]
  apply Outcomes.bind ((givenInventory c epoch).mono (fun _ => id) (fun _ _ => id) _)
  · intro rows
    apply Outcomes.assuming
    intro hrows
    have hrows : f.inventoryOver c s k epoch = .ok rows := hrows
    refine Outcomes.pure fun w hw => ⟨?_, _, hw⟩
    rw [hrows]
    rfl
  · rintro halt w (hfail | ⟨hhalt, hw⟩)
    · exact .inl hfail
    · refine .inr ⟨?_, _, hw⟩
      have hhalt : Replies.halting (f.inventoryOver c s k epoch) = .error halt := hhalt
      rw [hhalt]
      rfl

/-- A cycle observes what the replies have, in the order in which its lookups end. -/
theorem givenObserve (c : Settings) :
    Outcomes (Replying X mayFail f s k) (observe c : Run L (Epoch × List Found))
      (fun r w => (∃ found, f.observed c s k = .ok (r.1, found) ∧ r.2.Perm found) ∧
        ∃ k', Replying X mayFail f s k' w)
      (fun halt w => mayFail ∨ f.observed c s k = .error halt ∧
        ∃ k', Replying X mayFail f s k' w) := by
  rw [observe_eq]
  apply Outcomes.bind (givenAim c)
  rintro ⟨epoch, targets⟩ w ⟨hobserved, k', hw⟩
  refine (?_ : Outcomes (Replying X mayFail f s k') _ _ _) w hw
  apply Outcomes.bind <| Outcomes.of_triple_mono
    (givenLookup c c.delegationConcurrency none targets) fun _ _ => .inl
  exact fun found => Outcomes.pure fun w hw => ⟨⟨_, hobserved, hw.1⟩, k', hw.2⟩

end Run

end GovernanceIndex
