import GovernanceIndex.Number.Word
import GovernanceIndex.Proofs.Ledger.RetryLoop
import GovernanceIndex.Proofs.Ledger.View

/-!
Offsets of pages are words of 64 bits. A read goes on to a page only if the sum of offset and limit
that leads to it is such a word, whatever the service replies. So a read ends behind a full page
only when it has as many rows as there are offsets.
-/
namespace GovernanceIndex

theorem Page.next_offset {p : Page} (h : p.next.offset < PageRead.offsets) :
    Word.add64? (UInt64.ofNat p.offset) p.limit = some (UInt64.ofNat p.next.offset) := by
  have hoffset : (UInt64.ofNat p.offset).toNat = p.offset :=
    UInt64.toNat_ofNat_of_lt' (Nat.lt_of_le_of_lt (Nat.le_add_right _ _) h)
  unfold Word.add64?
  rw [hoffset]
  exact if_pos h

namespace PageRead

variable {l : Listing} {r r' : PageRead l} {reply : Except LedgerError (List l.Row)}
  {rows : List l.Row} {delay : Nat}

/-- The pages that are left behind the page of a read are those with an offset, and the rows before
the page have been read. -/
structure Addressed (r : PageRead l) : Prop where
  positive : 0 < r.page.limit
  within : r.page.offset + r.pagesLeft * r.page.limit < offsets
  all : offsets ≤ r.page.offset + (r.pagesLeft + 1) * r.page.limit
  read : r.page.offset ≤ r.rows.length

theorem start_addressed (policy : RetryPolicy) (pageSize : Nat) :
    (start l policy pageSize).Addressed := by
  have hlimit : 0 < (Page.first pageSize).limit :=
    Nat.lt_of_lt_of_le Nat.one_pos (Nat.le_max_right _ _)
  have hsplit := Nat.div_add_mod' (offsets - 1) (Page.first pageSize).limit
  have hrest := Nat.mod_lt (offsets - 1) hlimit
  have hpos : 0 < offsets := Nat.two_pow_pos 64
  refine ⟨hlimit, ?_, ?_, Nat.le_refl 0⟩
  · change 0 + (offsets - 1) / (Page.first pageSize).limit * (Page.first pageSize).limit < offsets
    omega
  · change offsets ≤
      0 + ((offsets - 1) / (Page.first pageSize).limit + 1) * (Page.first pageSize).limit
    rw [Nat.add_mul]
    omega

theorem Addressed.offset_lt (h : r.Addressed) : r.page.offset < offsets :=
  Nat.lt_of_le_of_lt (Nat.le_add_right _ _) h.within

/-- A read that goes on does so with the same page, or with the next one, which has an offset. -/
theorem Addressed.receive (h : r.Addressed) (hturn : r.receive reply = .goOn r' delay) :
    r'.Addressed ∧ (r'.page = r.page ∨ r'.page = r.page.next ∧
      Word.add64? (UInt64.ofNat r.page.offset) r.page.limit =
        some (UInt64.ofNat r'.page.offset)) := by
  have hreceived := r.received reply
  rw [hturn] at hreceived
  cases hreceived with
  | again => exact ⟨⟨h.positive, h.within, h.all, h.read⟩, .inl rfl⟩
  | @continued batch left hleft hfull =>
    have hwithin := h.within
    have hall := h.all
    have hread := h.read
    -- A full page takes one limit from the pages that are left, and adds it to the offset.
    have hrows : r.page.limit ≤ batch.length := by simpa [Page.isLast] using hfull
    rw [hleft, Nat.add_mul] at hwithin hall
    have hnext : Addressed ⟨r.policy, r.rows ++ batch, r.page.next, left, 1⟩ := by
      constructor
      · exact h.positive
      · change r.page.offset + r.page.limit + left * r.page.limit < offsets
        omega
      · change offsets ≤ r.page.offset + r.page.limit + (left + 1) * r.page.limit
        omega
      · change r.page.offset + r.page.limit ≤ (r.rows ++ batch).length
        rw [List.length_append]
        omega
    exact ⟨hnext, .inr ⟨rfl, Page.next_offset hnext.offset_lt⟩⟩

theorem Addressed.ended (h : r.Addressed) (hturn : r.receive reply = .done (.ok rows))
    (hrows : rows.length < offsets) :
    ∃ batch, reply = .ok batch ∧ rows = r.rows ++ batch ∧ r.page.isLast batch.length := by
  have hreceived := r.received reply
  rw [hturn] at hreceived
  cases hreceived with
  | @ended batch hlast =>
    refine ⟨batch, rfl, rfl, hlast.elim (fun hleft => ?_) id⟩
    have hall := h.all
    have hread := h.read
    rw [hleft, Nat.zero_add, Nat.one_mul] at hall
    rw [List.length_append] at hrows
    unfold Page.isLast
    rw [decide_eq_true_eq]
    omega

/-- Rows that end with a page which is not full. -/
def Complete (rows : List l.Row) : Prop :=
  ∃ (before batch : List l.Row) (p : Page), rows = before ++ batch ∧ p.offset ≤ before.length ∧
    p.isLast batch.length

/-- A world comes out of another one by requests for pages of a listing whose offsets are words of
64 bits. -/
def Pages {L : Type} [LedgerService L] (l : Listing) (w w' : World L) : Prop :=
  ∃ sent, w.Sends sent w' ∧ ∀ q ∈ sent, ∃ p, q = .page l p ∧ p.offset < 2 ^ 64

end PageRead

namespace Run

variable {L : Type} [LedgerService L] {l : Listing} {r : PageRead l} {w : World L}

open PageRead (Pages Complete)

theorem pageTurn_addressed (h : r.Addressed) :
    Triple (Pages l w) (r.turn : Run L _)
      (fun turn w' => (∃ reply, r.receive reply = turn) ∧ Pages l w w') fun _ => False := by
  rintro v ⟨sent, hsends, hpages⟩
  refine ⟨⟨_, rfl⟩, sent ++ [.page l r.page], hsends.trans (.ask v _), ?_⟩
  rw [List.forall_mem_append, List.forall_mem_singleton]
  exact ⟨hpages, r.page, rfl, h.offset_lt⟩

theorem waitUntil_pages (time : Nat) :
    Triple (Pages l w) (waitUntil time : Run L Unit) (fun _ => Pages l w) (Pages l w) := by
  rintro v ⟨sent, hsends, hpages⟩
  obtain ⟨passed, hpassed⟩ := exists_advance time v
  have hkept : Pages l w (waitUntil time v).2 := by
    rw [hpassed]
    exact ⟨sent, List.append_nil sent ▸ hsends.trans (.advance v passed), hpages⟩
  rcases hr : waitUntil time v with ⟨halt | _, v'⟩ <;> rw [hr] at hkept <;> exact hkept

/-- The turns of a read keep to pages with offsets, and what they come to is complete unless it has
as many rows as there are offsets. -/
theorem pageGo_addressed (turns : Nat) (h : r.Addressed) (hturns : r.rank < turns) :
    Triple (Pages l w) (PageRead.go turns r)
      (fun result w' => (∀ rows, result = .ok rows → rows.length < 2 ^ 64 → Complete rows) ∧
        Pages l w w') (Pages l w) := by
  induction turns generalizing r with
  | zero => exact absurd hturns (Nat.not_lt_zero _)
  | succ turns ih =>
    apply Triple.bind ((pageTurn_addressed h).mono (fun _ => id) (fun _ _ => id) fun _ => False.elim)
    intro turn
    apply Triple.assuming
    rintro ⟨reply, hturn⟩
    rcases turn with result | ⟨r', delay⟩
    · refine Triple.pure fun _ hw => ⟨?_, hw⟩
      rintro rows rfl hrows
      obtain ⟨batch, -, rfl, hlast⟩ := h.ended hturn hrows
      exact ⟨r.rows, batch, r.page, rfl, h.read, hlast⟩
    · apply Triple.getBind
      intro v
      apply Triple.bind ((waitUntil_pages _).pre fun _ hw => hw.2)
      exact fun _ => ih (h.receive hturn).1
        (Nat.lt_of_lt_of_le (PageRead.receive_rank hturn) (Nat.le_of_lt_succ hturns))

/-- Whatever a service replies, a listing is read by requests for pages whose offsets are words of 64
bits. The rows end with a page that is not full unless they are as many as there are offsets. -/
theorem rows_addressed (policy : RetryPolicy) (pageSize : Nat) (l : Listing) (w : World L) :
    Pages l w (rows policy pageSize l w).2 ∧
      ∀ read, (rows policy pageSize l w).1 = .ok (.ok read) → read.length < 2 ^ 64 →
        Complete read := by
  have hread := pageGo_addressed (w := w) _ (PageRead.start_addressed (l := l) policy pageSize)
    (Nat.lt_succ_self _) w ⟨[], .refl w, nofun⟩
  unfold rows
  rcases hr : PageRead.go _ _ w with ⟨halt | result, w'⟩ <;> rw [hr] at hread
  · exact ⟨hread, nofun⟩
  · refine ⟨hread.2, ?_⟩
    rintro read hok
    obtain rfl := Except.ok.inj hok
    exact hread.1 read rfl

end Run

end GovernanceIndex
