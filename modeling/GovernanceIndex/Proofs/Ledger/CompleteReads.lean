import GovernanceIndex.Proofs.Ledger.Exchanges
import GovernanceIndex.Proofs.Ledger.View

/-!
Reads of a service that serves fixed lists. A listing that is read page by page comes to the list
that is served, whatever the size of the pages, and reports on delegates that are requested in
batches come to the same rows, whatever the size of the batches; nothing is lost or repeated. Each
page and each batch is sent again by itself while it fails, and one that is refused ends the read.
-/
namespace GovernanceIndex

open LedgerService (behind replyAfter Concludes Carried)

namespace PageRead

variable {L : Type} [LedgerService L] {l : Listing} {w : World L} {r : PageRead l}

def read (r : PageRead l) : Run L (Except LedgerError (List l.Row)) := r.go (r.rank + 1)

/-- What follows a turn of a read: it is over, or it is waited before it goes on. -/
def follow (resume : PageRead l → Run L (Except LedgerError (List l.Row))) :
    Turn (PageRead l) (Except LedgerError (List l.Row)) → Run L (Except LedgerError (List l.Row))
  | .done result => return result
  | .goOn r' delay => do
    Run.waitUntil ((← get).clock + delay)
    resume r'

theorem go_succ (turns : Nat) (r : PageRead l) :
    (r.go (turns + 1) : Run L _) =
      Run.ask (.page l r.page) >>= fun reply => follow (go turns) (r.receive reply) := by
  unfold go turn
  simp only [bind_assoc, pure_bind]
  refine congrArg _ (funext fun reply => ?_)
  rcases r.receive reply with result | ⟨r', delay⟩ <;> rfl

/-- Turns to spare do not matter. -/
theorem go_congr {turns turns' : Nat} (h : r.rank < turns) (h' : r.rank < turns') :
    (r.go turns : Run L _) = r.go turns' := by
  induction turns generalizing r turns' with
  | zero => exact absurd h (Nat.not_lt_zero _)
  | succ turns ih =>
    obtain ⟨turns', rfl⟩ := Nat.exists_eq_succ_of_ne_zero (Nat.ne_zero_of_lt h')
    rw [go_succ, go_succ]
    refine congrArg _ (funext fun reply => ?_)
    rcases hnext : r.receive reply with result | ⟨r', delay⟩
    · rfl
    · have hless := receive_rank hnext
      have hsame : (r'.go turns : Run L _) = r'.go turns' := ih (by omega) (by omega)
      unfold follow
      dsimp only
      rw [hsame]

theorem read_apply (r : PageRead l) (w : World L) :
    r.read w = follow read (r.receive (replyAfter w.ledger (.page l r.page) 0))
      (w.ask (.page l r.page)).2 := by
  unfold read
  rw [go_succ, Run.bind_apply_of_ok (Run.ask_apply w (.page l r.page))]
  rcases hnext : r.receive (replyAfter w.ledger (.page l r.page) 0) with result | ⟨r', delay⟩
  · rfl
  · have hsame : (r'.go r.rank : Run L _) = r'.go (r'.rank + 1) :=
      go_congr (receive_rank hnext) (Nat.lt_succ_self _)
    unfold follow
    dsimp only
    rw [hsame]

/-- What the last reply for a page leads to. -/
def conclude (r : PageRead l) : Except LedgerError (List l.Row) →
    Turn (PageRead l) (Except LedgerError (List l.Row))
  | .error cause => .done (.error cause)
  | .ok batch => r.receive (.ok batch)

theorem receive_of_next?_none {reply : Except LedgerError (List l.Row)}
    (h : r.policy.next? r.attempt reply = none) : r.receive reply = r.conclude reply := by
  rcases reply with cause | batch
  · unfold receive
    rw [h]
    rfl
  · rfl

theorem conclude_again (r : PageRead l) (attempt : ℕ) :
    ({ r with attempt } : PageRead l).conclude = r.conclude := by
  funext reply
  cases reply <;> rfl

/-- The pages of a listing are requested in the same loop: a read goes on from the reply at which
the loop ends. -/
theorem read_eq_retryFrom (r : PageRead l) (h : r.attempt ≤ r.policy.attempts) :
    (r.read : Run L _) =
      Run.retryFrom r.policy (.page l r.page) (r.policy.attempts - r.attempt) r.attempt >>=
        fun reply => follow read (r.conclude reply) := by
  funext w
  rw [read_apply, Run.retryFrom_eq h, bind_assoc, Run.bind_apply_of_ok (Run.ask_apply w _)]
  rcases hnext : r.policy.next? r.attempt (replyAfter w.ledger (.page l r.page) 0) with _ | delay
  · rw [receive_of_next?_none hnext]
    rfl
  · obtain ⟨hroom, -⟩ := RetryPolicy.next?_eq_some hnext
    have hagain : r.receive (replyAfter w.ledger (.page l r.page) 0) =
        .goOn { r with attempt := r.attempt + 1 } (Run.waitMillis delay) := by
      unfold receive
      rw [hnext]
    have hrest := read_eq_retryFrom { r with attempt := r.attempt + 1 } hroom
    simp only [conclude_again] at hrest
    rw [hagain]
    change (Run.wait delay >>= fun _ => ({ r with attempt := r.attempt + 1 } : PageRead l).read) _ =
      _
    rw [hrest, bind_assoc]
termination_by r.policy.attempts - r.attempt

section

variable {n : Nat} {reply : Except LedgerError (List l.Row)}

theorem read_concludes (hdeadline : w.deadline = none) (hfirst : r.attempt = 1)
    (h : Concludes r.policy w.ledger (.page l r.page) n reply) :
    ∃ w', r.read w = follow read (r.conclude reply) w' ∧
      w.Sends (List.replicate (n + 1) (.page l r.page)) w' := by
  obtain ⟨w', hends, hsends⟩ := Run.retry_concludes hdeadline h
  have hwithin := h.within
  refine ⟨w', ?_, hsends⟩
  rw [read_eq_retryFrom r (by omega), hfirst]
  exact Run.bind_apply_of_ok hends _

theorem read_refused {cause : LedgerError} (hdeadline : w.deadline = none) (hfirst : r.attempt = 1)
    (h : Concludes r.policy w.ledger (.page l r.page) n (.error cause)) :
    ∃ w', r.read w = (.ok (.error cause), w') ∧
      w.Sends (List.replicate (n + 1) (.page l r.page)) w' :=
  read_concludes hdeadline hfirst h

theorem read_last {batch : List l.Row} (hdeadline : w.deadline = none) (hfirst : r.attempt = 1)
    (h : Concludes r.policy w.ledger (.page l r.page) n (.ok batch))
    (hlast : r.page.isLast batch.length) :
    ∃ w', r.read w = (.ok (.ok (r.rows ++ batch)), w') ∧
      w.Sends (List.replicate (n + 1) (.page l r.page)) w' := by
  obtain ⟨w', hends, hsends⟩ := read_concludes hdeadline hfirst h
  have hdone : r.conclude (.ok batch) = .done (.ok (r.rows ++ batch)) := by
    unfold conclude receive RetryPolicy.next?
    dsimp only
    split
    · rfl
    · rw [if_pos hlast]
  rw [hdone] at hends
  exact ⟨w', hends, hsends⟩

theorem read_next {batch : List l.Row} {left : Nat} (hdeadline : w.deadline = none)
    (hfirst : r.attempt = 1) (h : Concludes r.policy w.ledger (.page l r.page) n (.ok batch))
    (hfull : ¬ r.page.isLast batch.length) (hleft : r.pagesLeft = left + 1) :
    ∃ w', r.read w = (⟨r.policy, r.rows ++ batch, r.page.next, left, 1⟩ : PageRead l).read w' ∧
      w.Sends (List.replicate (n + 1) (.page l r.page)) w' := by
  obtain ⟨w₁, hends, hsends⟩ := read_concludes hdeadline hfirst h
  have hnext : r.conclude (.ok batch) =
      .goOn ⟨r.policy, r.rows ++ batch, r.page.next, left, 1⟩ 0 := by
    unfold conclude receive RetryPolicy.next?
    dsimp only
    rw [hleft]
    dsimp only
    rw [if_neg hfull]
  have hnone := hsends.deadline.trans hdeadline
  refine ⟨w₁.advance w₁.clock, ?_, List.append_nil (List.replicate (n + 1) _) ▸
    hsends.trans (.advance w₁ w₁.clock)⟩
  rw [hends, hnext]
  unfold follow
  dsimp only
  rw [Run.get_bind_apply, Run.bind_apply_of_ok (Run.waitUntil_apply hnone _)]
  rfl

end

end PageRead

/-- What a service serves: the rows of every listing, which can be counted in 64 bits, and what it
reports on a delegate. -/
structure Catalogue where
  rows : (l : Listing) → List l.Row
  info : DelegateId → List DelegateInfo
  countable : ∀ l, (rows l).length < PageRead.offsets

namespace Catalogue

variable (cat : Catalogue)

/-- A page is answered with a window of the listing, and a request for reports on delegates with
those on each of them. -/
def Answers : (q : Request) → q.Answer → Prop
  | .page l p, a => a = ((cat.rows l).drop p.offset).take p.limit
  | .delegateInfo ids, a => a = ids.flatMap cat.info
  | _, _ => True

def page (size : Nat) (l : Listing) (i : Nat) : Request := .page l ⟨size, i * size⟩

/-- The pages of a listing: as many full ones as it has, and one that is not full. -/
def pages (pageSize : Nat) (l : Listing) : List Request :=
  let size := max pageSize 1
  (List.range ((cat.rows l).length / size + 1)).map (page size l)

def infoRequests (batchSize : Nat) (ids : List DelegateId) : List Request :=
  (batches batchSize ids).map .delegateInfo

def listed : List DelegateId := (cat.rows .delegates).map fun d => d.delegate

/-- The inventory of an epoch, from all that is served. -/
def inventory (epoch : Epoch) : List DelegateSnapshot :=
  Inventory.merge epoch (cat.rows .delegates) (cat.listed.flatMap cat.info)
    (cat.rows (.delegatePower epoch))

/-- The requests for the inventory of an epoch. -/
def inventoryRequests (c : Settings) (epoch : Epoch) : List Request :=
  cat.pages c.pageSize .delegates ++
    (infoRequests c.infoBatchSize cat.listed ++ cat.pages c.pageSize (.delegatePower epoch))

end Catalogue

namespace PageRead

variable {L : Type} [LedgerService L] {l : Listing} {w : World L} {cat : Catalogue}

/-- A page is the last one just if the rows end within it. -/
theorem isLast_window {α : Type} (rows : List α) {p : Page} (h : 0 < p.limit) :
    p.isLast ((rows.drop p.offset).take p.limit).length ↔ rows.length < p.offset + p.limit := by
  unfold Page.isLast
  rw [List.length_take, List.length_drop, decide_eq_true_eq]
  omega

/-- From a page on, the rest of a listing is read unless a page is refused. -/
theorem read_pages {size : Nat} (hsize : 0 < size) (left : Nat) {i : Nat} {r : PageRead l}
    {sent : List Request} {refused : Option LedgerError}
    (hanswers : LedgerService.Answers cat.Answers w.ledger) (hdeadline : w.deadline = none)
    (hi : i + left = (cat.rows l).length / size) (hpage : r.page = ⟨size, i * size⟩)
    (hrows : r.rows = (cat.rows l).take (i * size)) (hfirst : r.attempt = 1)
    (hleft : left ≤ r.pagesLeft)
    (hcarried : Carried r.policy w.ledger
      ((List.range' i (left + 1)).map (Catalogue.page size l)) sent refused) :
    ∃ w', r.read w = (.ok (refused.elim (.ok (cat.rows l)) .error), w') ∧ w.Sends sent w' := by
  induction left using Nat.strong_induction_on generalizing i r w sent with
  | _ left ih =>
    have hq : Catalogue.page size l i = .page l r.page := by rw [Catalogue.page, hpage]
    rw [List.range'_succ, List.map_cons, hq] at hcarried
    rcases hcarried with _ | ⟨hanswer, hrest⟩ | hrefused
    · obtain rfl := hanswers _ (LedgerService.behind_reacts _ _) _ _ hanswer.reply
      have hlast := isLast_window (cat.rows l) (p := r.page) (hpage ▸ hsize)
      have hgrown : r.rows ++ ((cat.rows l).drop r.page.offset).take r.page.limit =
          (cat.rows l).take ((i + 1) * size) := by
        rw [hrows, hpage, Nat.succ_mul, List.take_add]
      have hoffset : r.page.offset + r.page.limit = (i + 1) * size := by
        rw [hpage, Nat.succ_mul]
      rw [hoffset, ← Nat.div_lt_iff_lt_mul hsize, ← hi] at hlast
      rcases left with _ | left
      · cases hrest
        obtain ⟨w', hends, hsends⟩ := read_last hdeadline hfirst hanswer (hlast.mpr (by omega))
        refine ⟨w', ?_, by rwa [List.append_nil]⟩
        have hall : (cat.rows l).length ≤ (i + 1) * size := by
          apply Nat.le_of_lt
          rw [← Nat.div_lt_iff_lt_mul hsize]
          omega
        rw [hends, hgrown, List.take_of_length_le hall]
        rfl
      · obtain ⟨pages, hpages⟩ : ∃ pages, r.pagesLeft = pages + 1 :=
          Nat.exists_eq_succ_of_ne_zero (by omega)
        obtain ⟨w₁, hends, hsends⟩ :=
          read_next hdeadline hfirst hanswer (hlast.not.mpr (by omega)) hpages
        rw [← hsends.ledger] at hrest
        have hanswers₁ : LedgerService.Answers cat.Answers w₁.ledger := by
          rw [hsends.ledger]
          exact hanswers.reacts (LedgerService.behind_reacts _ _)
        obtain ⟨w₂, hends₂, hsends₂⟩ := ih left (Nat.lt_succ_self left)
          (r := ⟨r.policy, _, r.page.next, pages, 1⟩) hanswers₁ (hsends.deadline.trans hdeadline)
          (by omega) (by rw [hpage, Page.next, Nat.succ_mul]) hgrown rfl
          (by dsimp only; omega) hrest
        exact ⟨w₂, hends.trans hends₂, hsends.trans hsends₂⟩
    · exact read_refused hdeadline hfirst hrefused

end PageRead

namespace Run

variable {L : Type} [LedgerService L] {cat : Catalogue}

namespace Carries

theorem listing (c : Settings) (l : Listing) :
    Carries cat.Answers c.retry (cat.pages c.pageSize l) (Run.listing c l : Run L (List l.Row))
      (cat.rows l) := by
  intro w sent refused hanswers hdeadline hcarried
  have hsize : 0 < max c.pageSize 1 := Nat.le_max_right _ 1
  have hcount : (cat.rows l).length / max c.pageSize 1 ≤
      PageRead.pagesBehind (.first c.pageSize) :=
    Nat.div_le_div_right (Nat.le_sub_one_of_lt (cat.countable l))
  unfold Catalogue.pages at hcarried
  dsimp only at hcarried
  rw [List.range_eq_range'] at hcarried
  obtain ⟨w', hends, hsends⟩ := PageRead.read_pages hsize _
    (r := PageRead.start l c.retry c.pageSize) hanswers hdeadline (Nat.zero_add _)
    (by rw [Nat.zero_mul]; rfl) (by rw [Nat.zero_mul]; rfl) rfl hcount hcarried
  have hread : Run.rows c.retry c.pageSize l w =
      (.ok (refused.elim (.ok (cat.rows l)) .error), w') := hends
  refine ⟨w', ?_, hsends⟩
  unfold Run.listing
  rw [bind_apply_of_ok hread]
  rcases refused with _ | cause <;> rfl

theorem delegateInfo (c : Settings) (ids : List DelegateId) :
    Carries cat.Answers c.retry (Catalogue.infoRequests c.infoBatchSize ids)
      (Run.delegateInfo c ids : Run L (List DelegateInfo)) (ids.flatMap cat.info) := by
  have hbatch (batch : List DelegateId) :
      Carries cat.Answers c.retry [.delegateInfo batch]
        (Run.request c (.delegateInfo batch) : Run L (List DelegateInfo))
        (batch.flatMap cat.info) := Carries.request (fun _ => id) c
  have hall := (Carries.mapM hbatch (batches c.infoBatchSize ids)).map List.flatten
  have hflat : ((batches c.infoBatchSize ids).map fun batch => batch.flatMap cat.info).flatten =
      ids.flatMap cat.info := by
    rw [← batches_flatten c.infoBatchSize ids, List.flatMap_def, List.map_flatten,
      List.flatten_flatten, List.map_map, batches_flatten]
    rfl
  rwa [hflat] at hall

theorem fetchDelegates (c : Settings) (epoch : Epoch) :
    Carries cat.Answers c.retry (cat.inventoryRequests c epoch)
      (Run.fetchDelegates c epoch : Run L FetchedDelegates)
      ⟨cat.rows .delegates, cat.listed.flatMap cat.info, cat.rows (.delegatePower epoch)⟩ := by
  apply Carries.bind (listing c .delegates)
  apply Carries.bind (delegateInfo c cat.listed)
  exact (listing c (.delegatePower epoch)).map _

theorem fetchInventory (c : Settings) (epoch : Epoch) :
    Carries cat.Answers c.retry (cat.inventoryRequests c epoch)
      (Run.fetchInventory c epoch : Run L (List DelegateSnapshot)) (cat.inventory epoch) :=
  (fetchDelegates c epoch).map fun f => f.inventory epoch

end Carries

/-- The requests of any read are carried out in some way, and none is refused if each is answered
within the attempts, whatever the service got before. A read whose requests are all answered comes
to all that is served, in its order and independently of the sizes of pages and batches. It sends
just these requests, each as often as it fails and once more; one that is refused is the last that
is sent, and the read fails with that failure. -/
theorem reads_complete (cat : Catalogue) (c : Settings) {w : World L}
    (hanswers : LedgerService.Answers cat.Answers w.ledger) (hdeadline : w.deadline = none) :
    (∀ plan, ∃ sent refused, Carried c.retry w.ledger plan sent refused ∧
      ((∀ l', LedgerService.Reacts w.ledger l' → ∀ q ∈ plan,
        ∃ n a, Concludes c.retry l' q n (.ok a)) → refused = none)) ∧
    (∀ l sent refused, Carried c.retry w.ledger (cat.pages c.pageSize l) sent refused →
      ∃ w', listing c l w = (ending (cat.rows l) refused, w') ∧ w.Sends sent w') ∧
    (∀ l, (cat.pages c.pageSize l).length = (cat.rows l).length / max c.pageSize 1 + 1) ∧
    (∀ ids sent refused,
      Carried c.retry w.ledger (Catalogue.infoRequests c.infoBatchSize ids) sent refused →
        ∃ w', delegateInfo c ids w = (ending (ids.flatMap cat.info) refused, w') ∧
          w.Sends sent w') ∧
    ∀ epoch sent refused, Carried c.retry w.ledger (cat.inventoryRequests c epoch) sent refused →
      ∃ w', fetchInventory c epoch w = (ending (cat.inventory epoch) refused, w') ∧
        w.Sends sent w' := by
  refine ⟨fun plan => ?_, fun l sent refused => ?_, fun l => ?_, fun ids sent refused => ?_,
    fun epoch sent refused => ?_⟩
  · obtain ⟨sent, refused, hcarried⟩ := LedgerService.exists_carried c.retry w.ledger plan
    exact ⟨sent, refused, hcarried, hcarried.refused_eq_none⟩
  · exact Carries.listing c l w sent refused hanswers hdeadline
  · unfold Catalogue.pages
    rw [List.length_map, List.length_range]
  · exact Carries.delegateInfo c ids w sent refused hanswers hdeadline
  · exact Carries.fetchInventory c epoch w sent refused hanswers hdeadline

end Run

namespace SimulatedLedger

def catalogue (s : SimulatedLedger) (h : ∀ l, (s.rows l).length < PageRead.offsets) :
    Catalogue where
  rows := s.rows
  info d := (s.delegates.get? d).toList
  countable := h

theorem answers_catalogue (s : SimulatedLedger) (h : ∀ l, (s.rows l).length < PageRead.offsets) :
    LedgerService.Answers (s.catalogue h).Answers s := by
  apply s.answers_view.mono (W := (s.catalogue h).Answers)
  intro q a ha
  cases q with
  | page l p => exact ha
  | delegateInfo ids => exact ha.trans (List.filterMap_eq_flatMap_toList _ _)
  | _ => trivial

end SimulatedLedger

namespace Run

def slowDelegate : DelegateId := ⟨"drep1slow", by decide⟩

def slowDelegators : List Delegator :=
  [⟨⟨"stake1a", by decide⟩, 3⟩, ⟨⟨"stake1b", by decide⟩, 4⟩]

/-- A service with two delegators of a delegate, which times out once. -/
def slowLedger : SimulatedLedger where
  delegators := ⟨[(slowDelegate, slowDelegators)]⟩
  queuedFailures := ⟨[(.drepDelegators, [.timeout "slow"])]⟩

theorem slowLedger_countable (l : Listing) : (slowLedger.rows l).length < PageRead.offsets := by
  have hfew : (slowLedger.rows l).length ≤ 2 := by
    cases l with
    | delegators d epoch =>
      have hrows : slowLedger.rows (.delegators d epoch) =
          (if slowDelegate = d then some slowDelegators else none).getD [] := by
        rcases epoch with _ | epoch <;> rfl
      rw [hrows]
      split
      · exact Nat.le_refl 2
      · exact Nat.zero_le 2
    | _ => simp [SimulatedLedger.rows, SimulatedLedger.ofEpoch, Table.valuesBy, slowLedger]
  exact hfew.trans_lt (by decide)

/-- Two delegators fill a page of two, so an empty page follows; the first page was sent twice. -/
theorem reads_complete_full_page :
    let cat := slowLedger.catalogue slowLedger_countable
    let w : World SimulatedLedger :=
      { ledger := slowLedger, worker := { id := ⟨"w1", by decide⟩ }, now := ⟨5, 0⟩ }
    let page (offset : Nat) : Request := .page (.delegators slowDelegate none) ⟨2, offset⟩
    LedgerService.Answers cat.Answers w.ledger ∧ w.deadline = none ∧
      ∃ w', listing { pageSize := 2 } (.delegators slowDelegate none) w =
          (.ok slowDelegators, w') ∧
        w'.requests.map Prod.snd = [page 2, page 0, page 0] := by
  intro cat w page
  have hanswers : LedgerService.Answers cat.Answers w.ledger :=
    slowLedger.answers_catalogue slowLedger_countable
  have hfirst : Concludes RetryPolicy.standard slowLedger (page 0) 1 (.ok slowDelegators) := by
    refine ⟨by decide, fun k hk => ?_, by decide +kernel, nofun⟩
    obtain rfl := Nat.lt_one_iff.mp hk
    exact ⟨.timeout "slow", by decide +kernel, rfl⟩
  have hlast : Concludes RetryPolicy.standard (behind slowLedger [page 0, page 0]) (page 2) 0
      (.ok []) := ⟨by decide, nofun, by decide +kernel, nofun⟩
  have hcarried : Carried RetryPolicy.standard slowLedger [page 0, page 2]
      [page 0, page 0, page 2] none := .answered hfirst (.answered hlast .done)
  have hpages : cat.pages 2 (.delegators slowDelegate none) = [page 0, page 2] := by
    decide +kernel
  obtain ⟨-, hlisting, -⟩ := reads_complete cat { pageSize := 2 } hanswers rfl
  obtain ⟨w', hends, hsends⟩ :=
    hlisting (.delegators slowDelegate none) [page 0, page 0, page 2] none (hpages ▸ hcarried)
  exact ⟨hanswers, rfl, w', hends, hsends.requests⟩

end Run

end GovernanceIndex
