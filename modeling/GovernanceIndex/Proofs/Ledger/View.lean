import GovernanceIndex.Proofs.Identifier
import GovernanceIndex.Proofs.Ledger.Answers
import GovernanceIndex.Proofs.Run.FanOut
import GovernanceIndex.Sync.Delegations

/-!
Reading a ledger service that does not change. If the same page, the same batch of delegates and the
history of the same address are answered alike on every request, then a listing, an inventory and
the lookups of delegates come to what is fixed from the start, however often requests fail in
between and in whatever order the lookups end.
-/
namespace GovernanceIndex

/-- What a service that does not change has to answer. -/
structure LedgerView where
  tip : Epoch
  infos : List DelegateId → List DelegateInfo
  page : (l : Listing) → Page → List l.Row
  history : StakeAddress → List DelegationUpdate

namespace LedgerView

/-- The answer to a request is that of the view, where the history of an address may stand anywhere
among those of a batch. -/
def Answers (v : LedgerView) : (q : Request) → q.Answer → Prop
  | .tip, a => a.epoch = v.tip
  | .delegateInfo ids, a => a = v.infos ids
  | .histories addresses, a => ∀ b ∈ addresses, DelegationHistory.of a b = v.history b
  | .page l p, a => a = v.page l p
  | .supplyTotals _, _ | .delegationTotal _, _ => True

/-- The rows of a listing from a page on, up to a page that is not full. -/
def rowsFrom (v : LedgerView) (l : Listing) : (left : Nat) → Page → List l.Row
  | 0, p => v.page l p
  | left + 1, p =>
    v.page l p ++ if p.isLast (v.page l p).length then [] else v.rowsFrom l left p.next

/-- The rows of a listing that is read in pages of a size. -/
def rows (v : LedgerView) (pageSize : Nat) (l : Listing) : List l.Row :=
  v.rowsFrom l (PageRead.pagesBehind (.first pageSize)) (.first pageSize)

def inventory (v : LedgerView) (c : Settings) (epoch : Epoch) : List DelegateSnapshot :=
  let listed := v.rows c.pageSize .delegates
  let infos := (batches c.infoBatchSize (listed.map fun d => d.delegate)).map v.infos
  Inventory.merge epoch listed infos.flatten (v.rows c.pageSize (.delegatePower epoch))

/-- What the lookups of delegates come to if none fails. -/
def found (v : LedgerView) (pageSize : Nat) (epoch : Option Epoch) (ids : List DelegateId) :
    List Found :=
  ids.map fun d => ⟨d, .ok (v.rows pageSize (.delegators d epoch))⟩

end LedgerView

theorem RetryPolicy.next?_eq_some {α : Type} {p : RetryPolicy} {attempt : Nat}
    {reply : Except LedgerError α} {d : Duration} (h : p.next? attempt reply = some d) :
    attempt < p.attempts ∧ ∃ cause, reply = .error cause := by
  rcases reply with cause | a
  · unfold next? at h
    dsimp only at h
    split at h
    · next hretry =>
      rw [Bool.and_eq_true] at hretry
      exact ⟨of_decide_eq_true hretry.2, cause, rfl⟩
    · cases h
  · cases h

namespace PageRead

/-- All that a reply leads to: its page is requested again or refused, or its rows end the read, or
the next page is read. -/
inductive Received {l : Listing} (r : PageRead l) : Except LedgerError (List l.Row) →
    Turn (PageRead l) (Except LedgerError (List l.Row)) → Prop
  | again {cause : LedgerError} {delay : Duration} (room : r.attempt < r.policy.attempts) :
    Received r (.error cause) (.goOn { r with attempt := r.attempt + 1 } (Run.waitMillis delay))
  | refused {cause : LedgerError} : Received r (.error cause) (.done (.error cause))
  | ended {batch : List l.Row} (last : r.pagesLeft = 0 ∨ r.page.isLast batch.length) :
    Received r (.ok batch) (.done (.ok (r.rows ++ batch)))
  | continued {batch : List l.Row} {left : Nat} (hleft : r.pagesLeft = left + 1)
    (full : ¬ r.page.isLast batch.length) :
    Received r (.ok batch) (.goOn ⟨r.policy, r.rows ++ batch, r.page.next, left, 1⟩ 0)

theorem received {l : Listing} (r : PageRead l) (reply : Except LedgerError (List l.Row)) :
    r.Received reply (r.receive reply) := by
  unfold receive
  rcases hnext : r.policy.next? r.attempt reply with _ | delay
  · rcases reply with cause | batch
    · exact .refused
    · dsimp only
      split
      · next hleft => exact .ended (.inl hleft)
      · next left hleft =>
        split
        · next hlast => exact .ended (.inr hlast)
        · next hfull => exact .continued hleft hfull
  · obtain ⟨hroom, cause, rfl⟩ := RetryPolicy.next?_eq_some hnext
    exact .again hroom

/-- A turn that does not end a read leaves less of it to do. -/
theorem receive_rank {l : Listing} {r r' : PageRead l} {reply : Except LedgerError (List l.Row)}
    {delay : Nat} (h : r.receive reply = .goOn r' delay) : r'.rank < r.rank := by
  have hattempts : 1 ≤ r.policy.attempts := Nat.le_max_left 1 _
  have hreceived := r.received reply
  rw [h] at hreceived
  cases hreceived with
  | again hroom =>
    unfold rank
    dsimp only
    omega
  | continued hleft =>
    unfold rank
    dsimp only
    rw [hleft, Nat.succ_mul]
    omega

variable {v : LedgerView} {l : Listing} {rows : List l.Row}

/-- A read of a listing that is on the way to some rows. -/
def Heads (v : LedgerView) (rows : List l.Row) (r : PageRead l) : Prop :=
  r.rows ++ v.rowsFrom l r.pagesLeft r.page = rows

def Reads {α : Type} (rows : α) (reply : Except LedgerError α) : Prop :=
  ∀ a, reply = .ok a → a = rows

theorem start_heads (policy : RetryPolicy) (pageSize : Nat) :
    Heads v (v.rows pageSize l) (start l policy pageSize) := by
  unfold Heads start LedgerView.rows
  rw [List.nil_append]

/-- A reply as the view has it leaves less of the read to do, or ends it with the rows. -/
theorem receive_proceeds {r : PageRead l} (h : r.Heads v rows)
    {reply : Except LedgerError (List l.Row)} (hreply : ∀ a, reply = .ok a → a = v.page l r.page) :
    FanOut.Proceeds (fun _ => ()) (Heads v rows) (fun _ => Reads rows) rank r (r.receive reply) := by
  unfold Heads at h
  have hreceived := r.received reply
  rcases hturn : r.receive reply with result | ⟨r', delay⟩ <;> rw [hturn] at hreceived
  · cases hreceived with
    | refused => exact fun a ha => by cases ha
    | @ended batch hlast =>
      obtain rfl := hreply batch rfl
      rintro a ha
      cases ha
      rw [← h]
      rcases hleft : r.pagesLeft with _ | left
      · rfl
      · rw [LedgerView.rowsFrom, if_pos (hlast.resolve_left (by simp [hleft])), List.append_nil]
  · refine ⟨rfl, ?_, receive_rank hturn⟩
    cases hreceived with
    | again => exact h
    | @continued batch left hleft hfull =>
      obtain rfl := hreply batch rfl
      rw [hleft, LedgerView.rowsFrom, if_neg hfull, ← List.append_assoc] at h
      exact h

end PageRead

namespace Run

variable {L : Type} [LedgerService L] {v : LedgerView} {P : World L → Prop}
  (hP : ∀ w w', World.Passes w w' → P w → P w')
  (hV : ∀ w, P w → LedgerService.Answers v.Answers w.ledger)
include hP hV

theorem pageTurn_view {l : Listing} {rows : List l.Row} {r : PageRead l} (h : r.Heads v rows) :
    Triple P r.turn (fun turn w => FanOut.Proceeds (fun _ => ()) (PageRead.Heads v rows)
      (fun _ => PageRead.Reads rows) PageRead.rank r turn ∧ P w) P := by
  apply Triple.bind (ask_answers hP hV (.page l r.page))
  intro reply
  exact Triple.pure fun w hw => ⟨PageRead.receive_proceeds h hw.2, hw.1⟩

theorem pageGo_view {l : Listing} {rows : List l.Row} (turns : Nat) {r : PageRead l}
    (h : r.Heads v rows) (hturns : r.rank < turns) :
    Triple P (PageRead.go turns r) (fun reply w => PageRead.Reads rows reply ∧ P w) P := by
  induction turns generalizing r with
  | zero => exact absurd hturns (Nat.not_lt_zero _)
  | succ turns ih =>
    apply Triple.bind (pageTurn_view hP hV h)
    intro turn
    apply Triple.assuming
    intro hturn
    rcases turn with reply | ⟨r', delay⟩
    · exact Triple.pure fun w hw => ⟨hturn, hw⟩
    · obtain ⟨-, hheads, hrank⟩ := hturn
      apply Triple.getBind
      intro w
      apply Triple.bind (((Passes.waitUntil _).triple hP).pre fun _ hw => hw.2)
      intro _
      exact ih hheads (by omega)

theorem listing_view (c : Settings) (l : Listing) :
    Triple P (listing c l) (fun rows w => rows = v.rows c.pageSize l ∧ P w) P := by
  apply Triple.bind (pageGo_view hP hV _ (PageRead.start_heads c.retry c.pageSize)
    (Nat.lt_succ_self _))
  intro reply
  apply Triple.assuming
  intro hreply
  rcases reply with cause | rows
  · exact Triple.throw fun _ => id
  · exact Triple.pure fun w hw => ⟨hreply rows rfl, hw⟩

theorem fetchDelegates_view (c : Settings) (epoch : Epoch) :
    Triple P (fetchDelegates c epoch) (fun f w => f.inventory epoch = v.inventory c epoch ∧ P w)
      P := by
  have hinfos (batch : List DelegateId) :
      Triple P (request c (.delegateInfo batch)) (fun a w => a = v.infos batch ∧ P w) P :=
    (request_answers hP hV c (.delegateInfo batch)).post fun _ _ => And.symm
  apply Triple.bind (listing_view hP hV c .delegates)
  intro listed
  apply Triple.assuming
  rintro rfl
  apply Triple.bind (Q := fun infos w => infos =
    ((batches c.infoBatchSize ((v.rows c.pageSize .delegates).map fun d => d.delegate)).map
      v.infos).flatten ∧ P w)
  · apply Triple.bind (Triple.mapM hinfos _)
    intro infos
    apply Triple.assuming
    rintro rfl
    exact Triple.pure fun w hw => ⟨rfl, hw⟩
  intro infos
  apply Triple.assuming
  rintro rfl
  apply Triple.bind (listing_view hP hV c (.delegatePower epoch))
  intro powers
  apply Triple.assuming
  rintro rfl
  exact Triple.pure fun w hw => ⟨rfl, hw⟩

theorem fetchInventory_view (c : Settings) (epoch : Epoch) :
    Triple P (fetchInventory c epoch) (fun rows w => rows = v.inventory c epoch ∧ P w) P :=
  Triple.bind (fetchDelegates_view hP hV c epoch) fun _ => Triple.pure fun _ hw => hw

/-- The lookup of every delegate ends, and if it does not fail, with the rows of the view. -/
theorem lookup_view (c : Settings) (limit : Nat) (epoch : Option Epoch) (ids : List DelegateId) :
    Triple P (Lookup.run c limit epoch ids)
      (fun found w => (∃ ended, List.Forall₂ (fun d (f : Found) => f.delegate = d ∧
        PageRead.Reads (v.rows c.pageSize (.delegators d epoch)) f.reply) ended found ∧
        ended.Perm ids) ∧ P w) P := by
  have hturn (x : Lookup epoch)
      (hx : x.read.Heads v (v.rows c.pageSize (.delegators x.delegate epoch))) :
      Triple P x.turn (fun turn w => FanOut.Proceeds (fun x => x.delegate)
        (fun x => x.read.Heads v (v.rows c.pageSize (.delegators x.delegate epoch)))
        (fun d f => f.delegate = d ∧
          PageRead.Reads (v.rows c.pageSize (.delegators d epoch)) f.reply)
        (fun x => x.read.rank) x turn ∧ P w) P := by
    apply Triple.bind (pageTurn_view hP hV hx)
    intro turn
    apply Triple.assuming
    intro hturn
    rcases turn with reply | ⟨read, delay⟩
    · exact Triple.pure fun w hw => ⟨⟨rfl, hturn⟩, hw⟩
    · exact Triple.pure fun w hw => ⟨⟨rfl, hturn.2⟩, hw⟩
  have hstart (x : Lookup epoch) (hx : x ∈ ids.map (Lookup.start c epoch)) :
      x.read.Heads v (v.rows c.pageSize (.delegators x.delegate epoch)) := by
    obtain ⟨d, -, rfl⟩ := List.mem_map.mp hx
    exact PageRead.start_heads c.retry c.pageSize
  apply Triple.bind (FanOut.run_triple (fun time => (Passes.waitUntil time).triple hP) hturn limit
    hstart)
  intro f
  refine Triple.pure fun w hw => ⟨?_, hw.2⟩
  obtain ⟨⟨ended, hended, hperm⟩, -⟩ := hw
  refine ⟨ended, hended, ?_⟩
  rw [List.map_map] at hperm
  simpa [Lookup.start, Function.comp_def] using hperm

end Run

theorem LedgerView.reports_eq {v : LedgerView} {pageSize : Nat} {epoch : Option Epoch}
    {ids ended : List DelegateId} {found : List Found}
    (hended : List.Forall₂ (fun d (f : Found) => f.delegate = d ∧
      PageRead.Reads (v.rows pageSize (.delegators d epoch)) f.reply) ended found)
    (hperm : ended.Perm ids) (hnone : Found.failures found = []) :
    Observation.reports found = Observation.reports (v.found pageSize epoch ids) := by
  have hview : Found.successes (v.found pageSize epoch ids) =
      ids.map fun d => (d, v.rows pageSize (.delegators d epoch)) := by
    simp [Found.successes, LedgerView.found, List.filterMap_map, Except.toOption]
  have hfound : Found.successes found =
      ended.map fun d => (d, v.rows pageSize (.delegators d epoch)) := by
    clear hperm
    induction hended with
    | nil => rfl
    | @cons d f ended found hf _ ih =>
      obtain ⟨rfl, hreads⟩ := hf
      unfold Found.failures at hnone
      unfold Found.successes at ih ⊢
      rw [List.filterMap_cons] at hnone ⊢
      rcases hreply : f.reply with cause | rows <;> rw [hreply] at hnone
      · cases hnone
      · obtain rfl := hreads rows hreply
        rw [List.map_cons, ih hnone]
        rfl
  unfold Observation.reports
  rw [hview, hfound]
  dsimp only
  rw [Identifier.mergeSort_eq_of_perm (f := Prod.fst) (hperm.map _)]
  intro a ha b hb hab
  obtain ⟨d, -, rfl⟩ := List.mem_map.mp ha
  obtain ⟨d', -, rfl⟩ := List.mem_map.mp hb
  obtain rfl : d = d' := hab
  rfl

namespace SimulatedLedger

/-- What a simulated service has to answer, which no request changes. -/
def view (l : SimulatedLedger) : LedgerView where
  tip := l.tip.getD ⟨0⟩
  infos ids := ids.filterMap l.delegates.get?
  page listing p := window (l.rows listing) p
  history a := (l.histories.get? a).getD []

theorem histories_of (l : SimulatedLedger) {addresses : List StakeAddress} {a : StakeAddress}
    (ha : a ∈ addresses) :
    DelegationHistory.of (addresses.filterMap fun b => (l.histories.get? b).map fun h => ⟨b, h⟩) a =
      (l.histories.get? a).getD [] := by
  unfold DelegationHistory.of
  rw [Inventory.get?_latest]
  generalize hfound : ((addresses.filterMap fun b => (l.histories.get? b).map fun h =>
    (⟨b, h⟩ : DelegationHistory)).map fun x => (x.address, x.updates)).filter
      (fun x => x.1 = a) = found
  have hmem (e : StakeAddress × List DelegationUpdate) :
      e ∈ found ↔ e.1 = a ∧ l.histories.get? a = some e.2 := by
    obtain ⟨b, us⟩ := e
    rw [← hfound]
    simp only [List.mem_filter, List.mem_map, List.mem_filterMap, Option.map_eq_some_iff,
      decide_eq_true_eq]
    constructor
    · rintro ⟨⟨x, ⟨b, -, us, hus, rfl⟩, hx⟩, rfl⟩
      cases hx
      exact ⟨rfl, hus⟩
    · rintro ⟨rfl, hus⟩
      exact ⟨⟨⟨b, us⟩, ⟨b, ha, us, hus, rfl⟩, rfl⟩, rfl⟩
  rcases hlast : found.getLast? with _ | ⟨b, us⟩
  · rcases hget : l.histories.get? a with _ | us
    · rfl
    · have hin : (a, us) ∈ found := (hmem (a, us)).mpr ⟨rfl, hget⟩
      rw [List.getLast?_eq_none_iff.mp hlast] at hin
      cases hin
  · rw [((hmem (b, us)).mp (List.mem_of_getLast? hlast)).2]
    rfl

theorem answers_view (l : SimulatedLedger) : LedgerService.Answers l.view.Answers l := by
  apply l.answers.mono (W := l.view.Answers)
  intro q a ha
  cases q with
  | tip =>
    simp only [answer] at ha
    split at ha
    · next htip =>
      cases ha
      simp [LedgerView.Answers, view, htip]
    · cases ha
  | histories addresses =>
    cases ha
    exact fun b hb => l.histories_of hb
  | delegateInfo ids => exact (Except.ok.inj ha).symm
  | page listing p =>
    simp only [answer] at ha
    split at ha
    · cases ha
    · exact (Except.ok.inj ha).symm
  | supplyTotals epoch => trivial
  | delegationTotal epoch => trivial

end SimulatedLedger

end GovernanceIndex
