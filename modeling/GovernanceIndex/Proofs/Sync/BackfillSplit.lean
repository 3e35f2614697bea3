import GovernanceIndex.Proofs.Ledger.AvoidedEndpoints
import GovernanceIndex.Proofs.Sync.CycleAccounts
import GovernanceIndex.Proofs.Sync.SentRequests

/-!
How the backfill of a cycle splits the addresses that are pending. Their histories are fetched batch
after batch, and before each batch the quota is read. Once it is below the reserve nothing more is
requested: the addresses of the batches before were processed, and those of the batches behind are
skipped and left alone for the rest of the cycle. The cursor that is stored then tells how far the
backfill came; a backfill that came to its end leaves none.
-/
namespace GovernanceIndex

open LedgerService (behind Concludes)
open World (Traced)

/-- The service names a quota that is below the reserve. -/
def Settings.LowQuota {L : Type} [LedgerService L] (c : Settings) (l : L) : Prop :=
  ∃ left ∈ LedgerService.quota l, left < c.minQuotaReserve

/-- The requests for the histories of batches, each of which was first sent in vain so many
times. -/
def Request.fetches (fetched : List (List StakeAddress × Nat)) : List Request :=
  fetched.flatMap fun f => List.replicate (f.2 + 1) (.histories f.1)

open Request (fetches)

theorem Request.fetches_snoc (fetched : List (List StakeAddress × Nat)) (batch : List StakeAddress)
    (n : Nat) : fetches (fetched ++ [(batch, n)]) =
      fetches fetched ++ List.replicate (n + 1) (.histories batch) := by
  unfold fetches
  rw [List.flatMap_append, List.flatMap_singleton]

/-- Batches were fetched from a service one after the other. Before each of them the quota was not
low; then its histories were requested until they were answered. -/
inductive Fetched {L : Type} [LedgerService L] (c : Settings) (l : L) :
    List (List StakeAddress × Nat) → Prop
  | nil : Fetched c l []
  | snoc {done : List (List StakeAddress × Nat)} {batch : List StakeAddress} {n : Nat}
      {histories : List DelegationHistory} (hdone : Fetched c l done)
      (hquota : ¬ c.LowQuota (behind l (fetches done)))
      (hanswer : Concludes c.retry (behind l (fetches done)) (.histories batch) n (.ok histories)) :
      Fetched c l (done ++ [(batch, n)])

/-- How far a backfill came in batches: it processed those that were fetched, and skipped those that
are left, since the quota was low before them. -/
structure Backfill.Splits {L : Type} [LedgerService L] (c : Settings) (l : L)
    (batches : List (List StakeAddress)) (b : Backfill) (fetched : List (List StakeAddress × Nat))
    (left : List (List StakeAddress)) : Prop where
  inTurn : Fetched c l fetched
  split : fetched.map Prod.fst ++ left = batches
  processed : (fetched.map Prod.fst).flatten = b.processed
  skipped : left.flatten = b.skipped
  stopped : left ≠ [] → c.LowQuota (behind l (fetches fetched))

open Backfill (Splits)

theorem Backfill.Splits.addresses {L : Type} [LedgerService L] {c : Settings} {l : L}
    {batches : List (List StakeAddress)} {b : Backfill} {fetched : List (List StakeAddress × Nat)}
    {left : List (List StakeAddress)} (h : b.Splits c l batches fetched left) :
    b.processed ++ b.skipped = batches.flatten := by
  rw [← h.processed, ← h.skipped, ← h.split, List.flatten_append]

/-- The cursor of a backfill behind addresses that are done: that of the last of them, or the one
that was stored before. -/
def Backfill.cursorBehind (job : String) (start total : UInt64) (stored : Option BackfillCursor)
    (done : List StakeAddress) : Option BackfillCursor :=
  match done.getLast? with
  | none => stored
  | some last => some ⟨job, last, start + UInt64.ofNat done.length, total⟩

/-- How many addresses a backfill did before, as its cursor says. -/
def Store.doneBefore (s : Store) (job : String) : UInt64 :=
  ((s.cursors.get? job).map fun k => k.processed).getD 0

/-- What a backfill makes of its cursor. One that came to its end clears it. One that stopped early
leaves it at the last address that was processed, with what was done before counted in. -/
structure Backfill.Books (s₀ : Store) (job : String) (b : Backfill) (s : Store) : Prop where
  cleared : b.skipped = [] → s.cursors.get? job = none
  kept : b.skipped ≠ [] → ∀ last ∈ b.processed.getLast?, ∃ k ∈ s.cursors.get? job,
    k.lastAddress = last ∧
    k.processed.toNat = (s₀.doneBefore job).toNat + b.processed.length ∧
    k.total.toNat = (s₀.doneBefore job).toNat + (b.processed ++ b.skipped).length

open Backfill (Books cursorBehind)

theorem Backfill.Books.congr {s₀ s s' : Store} {job : String} {b : Backfill} (h : b.Books s₀ job s)
    (hs : s'.cursors = s.cursors) : b.Books s₀ job s' := by
  constructor
  · rw [hs]
    exact h.cleared
  · rw [hs]
    exact h.kept

/-- What was done counts on from what was done before, and does not overflow if the total does
not. -/
theorem Backfill.books_of_cursorBehind {s₀ s : Store} {job : String} {b : Backfill} {total : UInt64}
    (htotal : s₀.backfillTotal? job (b.processed ++ b.skipped) = some total)
    (hskipped : b.skipped ≠ [])
    (h : s.cursors.get? job =
      cursorBehind job (s₀.doneBefore job) total (s₀.cursors.get? job) b.processed) :
    b.Books s₀ job s := by
  refine ⟨fun hnone => absurd hnone hskipped, fun _ last hlast => ?_⟩
  unfold cursorBehind at h
  rw [hlast] at h
  refine ⟨_, h, rfl, ?_⟩
  have hsum : (if (s₀.doneBefore job).toNat + (b.processed ++ b.skipped).length <
      18446744073709551616 then some (UInt64.ofNat ((s₀.doneBefore job).toNat +
        (b.processed ++ b.skipped).length)) else none) = some total := htotal
  split at hsum
  · next hfits =>
    obtain rfl := Option.some.inj hsum
    have hlength : b.processed.length ≤ (b.processed ++ b.skipped).length := by
      rw [List.length_append]
      exact Nat.le_add_right _ _
    dsimp only
    rw [UInt64.toNat_add, UInt64.toNat_ofNat', UInt64.toNat_ofNat']
    omega
  · cases hsum

namespace Run

variable {L : Type} [LedgerService L] {w₀ : World L} {qs : List Request} {s₀ : Store}
  {job : String} {start total : UInt64} {stored : Option BackfillCursor} {P : Store → Prop}

theorem tracedQuota (c : Settings) :
    Triple (Traced True w₀ qs P) (quotaIsLow c : Run L Bool)
      (fun low w => (low = true ↔ c.LowQuota (behind w₀.ledger qs)) ∧ Traced True w₀ qs P w)
      fun _ => True := by
  apply Triple.getBind
  intro w
  refine Triple.pure ?_
  rintro _ ⟨rfl, hw⟩
  refine ⟨?_, hw⟩
  rw [hw.sends.ledger]
  unfold Settings.LowQuota
  simp [Option.any_eq_true]

theorem tracedBackfillBatch {histories : Table StakeAddress (List DelegationUpdate)}
    {before : UInt64} {b : Backfill}
    (hbefore : before = start + UInt64.ofNat b.processed.length) (addresses : List StakeAddress) :
    Triple (Traced True w₀ qs fun s =>
        s.cursors.get? job = cursorBehind job start total stored b.processed)
      (backfillBatch job total histories before b addresses : Run L Backfill)
      (fun b' w => (b'.processed = b.processed ++ addresses ∧ b'.skipped = b.skipped) ∧
        Traced True w₀ qs (fun s =>
          s.cursors.get? job = cursorBehind job start total stored b'.processed) w)
      fun _ => True := by
  induction addresses generalizing before b with
  | nil => exact Triple.pure fun w hw => ⟨⟨(List.append_nil b.processed).symm, rfl⟩, hw⟩
  | cons a rest ih =>
    have hcount : before + 1 = start + UInt64.ofNat (b.processed ++ [a]).length := by
      rw [hbefore, List.length_append, UInt64.ofNat_add, UInt64.add_assoc]
      rfl
    unfold backfillBatch
    apply Triple.getBind
    intro w
    apply Triple.bind (Q := fun _ => Traced True w₀ qs fun s =>
      s.cursors.get? job = cursorBehind job start total stored (b.processed ++ [a]))
    · refine ((tracedCall (fun _ => rfl) fun s _ => ?_).pre fun _ hv => hv.2)
      unfold cursorBehind
      rw [List.getLast?_concat, ← hcount]
      exact (Table.get?_insert _ _ _ _).trans (if_pos rfl)
    · intro _
      apply (ih (b := { b with processed := b.processed ++ [a], changes := _ }) hcount).post
      rintro b' w ⟨⟨hprocessed, hskipped⟩, hw⟩
      refine ⟨⟨?_, hskipped⟩, hw⟩
      rw [hprocessed, List.append_assoc, List.singleton_append]

theorem tracedBackfillBatches (c : Settings) {fetched : List (List StakeAddress × Nat)}
    (hfetched : Fetched c w₀.ledger fetched) {before : UInt64} {b : Backfill}
    (hbefore : before = start + UInt64.ofNat b.processed.length)
    (hprocessed : (fetched.map Prod.fst).flatten = b.processed) (hskipped : b.skipped = [])
    (rest : List (List StakeAddress)) :
    Triple (Traced True w₀ (fetches fetched) fun s =>
        s.cursors.get? job = cursorBehind job start total stored b.processed)
      (backfillBatches c job total before b rest : Run L Backfill)
      (fun b' w => ∃ fetched' left,
        b'.Splits c w₀.ledger (fetched.map Prod.fst ++ rest) fetched' left ∧
        Traced True w₀ (fetches fetched') (fun s =>
          s.cursors.get? job = cursorBehind job start total stored b'.processed) w)
      fun _ => True := by
  induction rest generalizing fetched before b with
  | nil =>
    refine Triple.pure fun w hw => ⟨fetched, [], ?_, hw⟩
    exact ⟨hfetched, rfl, hprocessed, hskipped.symm, fun h => absurd rfl h⟩
  | cons batch rest ih =>
    unfold backfillBatches
    apply Triple.bind (tracedQuota c)
    intro low
    apply Triple.assuming
    intro hlow
    split
    · next hyes =>
      refine Triple.pure fun w hw => ⟨fetched, batch :: rest, ?_, hw⟩
      exact ⟨hfetched, rfl, hprocessed, rfl, fun _ => hlow.mp hyes⟩
    · next hno =>
      apply Triple.bind (tracedRequest (fun s s' hs h => by rwa [hs.eq fun s => s.cursors]) c
        (.histories batch))
      rintro histories w ⟨n, hanswer, hw⟩
      have hserved : Fetched c w₀.ledger (fetched ++ [(batch, n)]) :=
        hfetched.snoc (hlow.not.mp hno) hanswer
      have hlonger : (fetched ++ [(batch, n)]).map Prod.fst = fetched.map Prod.fst ++ [batch] :=
        List.map_append
      rw [← Request.fetches_snoc] at hw
      refine (Triple.bind (tracedBackfillBatch hbefore batch) fun b' => ?_) w hw
      apply Triple.assuming
      rintro ⟨hprocessed', hskipped'⟩
      have hcount : before + UInt64.ofNat batch.length =
          start + UInt64.ofNat b'.processed.length := by
        rw [hbefore, hprocessed', List.length_append, UInt64.ofNat_add, UInt64.add_assoc]
      have hflatten : ((fetched ++ [(batch, n)]).map Prod.fst).flatten = b'.processed := by
        rw [hlonger, List.flatten_append, hprocessed, hprocessed', List.flatten_singleton]
      have hrest := ih hserved hcount hflatten (hskipped'.trans hskipped)
      rw [hlonger, List.append_assoc, List.singleton_append] at hrest
      exact hrest

theorem tracedBackfill (c : Settings) (job : String) (addresses : List StakeAddress) :
    Triple (Traced True w₀ [] s₀.SameData)
      (backfill c job addresses (s₀.cursors.get? job) : Run L Backfill)
      (fun b w => ∃ fetched left,
        b.Splits c w₀.ledger (batches c.historyBatchSize addresses) fetched left ∧
        Traced True w₀ (fetches fetched) (b.Books s₀ job) w) fun _ => True := by
  unfold backfill
  dsimp only
  split
  · exact Triple.throw fun _ _ => trivial
  · next total htotal =>
    have hzero : s₀.doneBefore job =
        s₀.doneBefore job + UInt64.ofNat ({} : Backfill).processed.length :=
      (UInt64.add_zero _).symm
    have hstart (w : World L) (hw : Traced True w₀ [] s₀.SameData w) :
        Traced True w₀ (fetches []) (fun s => s.cursors.get? job =
          cursorBehind job (s₀.doneBefore job) total (s₀.cursors.get? job) []) w :=
      hw.mono fun hs => hs.eq fun s => s.cursors.get? job
    apply Triple.bind ((tracedBackfillBatches c .nil hzero rfl rfl _).pre hstart)
    rintro b w ⟨fetched, left, hsplits, hw⟩
    have haddresses : b.processed ++ b.skipped = addresses :=
      hsplits.addresses.trans (batches_flatten _ _)
    refine (?_ : Triple (Traced True w₀ (fetches fetched) _) _ _ _) w hw
    split
    · next hempty =>
      have hcleared (s : Store) : b.Books s₀ job (s.clearCursor job) :=
        ⟨fun _ => (Table.get?_erase _ _ _).trans (if_pos rfl),
          fun hskipped => absurd (List.isEmpty_iff.mp hempty) hskipped⟩
      apply Triple.bind (tracedCall (Q := fun _ => b.Books s₀ job) (fun _ => rfl)
        fun s _ => hcleared s)
      intro _
      split
      · apply Triple.getBind
        intro v
        apply Triple.bind ((tracedCall (Q := fun _ => b.Books s₀ job) (fun _ => rfl)
          fun s hs => hs.congr rfl).pre fun _ hw => hw.2)
        exact fun _ => Triple.pure fun w hw => ⟨fetched, left, hsplits, hw⟩
      · exact Triple.pure fun w hw => ⟨fetched, left, hsplits, hw⟩
    · next hsome =>
      have hskipped : b.skipped ≠ [] := fun hnone => hsome (List.isEmpty_iff.mpr hnone)
      rw [← haddresses] at htotal
      exact Triple.pure fun w hw => ⟨fetched, left, hsplits,
        hw.mono (Backfill.books_of_cursorBehind htotal hskipped)⟩

theorem tracedBackfillNew (c : Settings) (new : List StakeAddress) :
    Triple (Traced True w₀ [] s₀.SameData) (backfillNew c new : Run L (Bool × Backfill))
      (fun r w => ∃ fetched left,
        r.2.Splits c w₀.ledger (batches c.historyBatchSize new) fetched left ∧
        Traced True w₀ (fetches fetched)
          (fun s => ∀ job ∈ s₀.backfillJob? new, r.2.Books s₀ job s) w) fun _ => True := by
  apply Outcomes.triple_iff.mpr
  apply backfillNew_due
  · exact fun k g hk hg => Outcomes.triple_iff.mp (tracedReadData hk hg)
  · intro job hjob
    apply Outcomes.post (Outcomes.triple_iff.mp (tracedBackfill c job new))
    rintro b w ⟨fetched, left, hsplits, hw⟩
    refine ⟨fetched, left, hsplits, hw.mono fun hs other hother => ?_⟩
    obtain rfl := Option.some.inj (hjob.symm.trans hother)
    exact hs
  · intro hjob w hw
    obtain ⟨-, rfl⟩ := Store.backfillJob?_eq_none.mp hjob
    refine ⟨[], [], ⟨.nil, rfl, rfl, rfl, fun h => absurd rfl h⟩, hw.mono fun _ job hnone => ?_⟩
    rw [hjob] at hnone
    cases hnone

theorem tracedWriteDifferences (c : Settings) (ds : List Difference)
    (hP : ∀ s cs xs, P s → P (s.applyChanges cs xs)) :
    Triple (Traced True w₀ qs P) (writeDifferences c ds : Run L Unit)
      (fun _ => Traced True w₀ qs P) fun _ => True := by
  unfold writeDifferences
  induction batches c.writeBatchSize ds with
  | nil => exact Triple.pure fun _ => id
  | cons batch rest ih =>
    unfold List.forM
    apply Triple.bind (tracedCall (Q := fun _ => P) (fun _ => rfl) fun s => hP s _ _)
    exact fun _ => ih

/-- The second part of a cycle backfills the addresses without a state; what it requests are their
histories. -/
theorem tracedReconcile (c : Settings) (epoch : Epoch) (found : List Found) :
    let new := s₀.newAddresses (Observation.latest (Observation.reports found))
    Triple (Traced True w₀ [] s₀.SameData) (reconcile c epoch found : Run L DelegationsReport)
      (fun report w => ∃ b : Backfill, ∃ fetched left,
        (report.backfilled = b.processed.length ∧ report.backfillSkipped = b.skipped.length) ∧
        b.Splits c w₀.ledger (batches c.historyBatchSize new) fetched left ∧
        Traced True w₀ (fetches fetched) (fun s => ∀ job ∈ s₀.backfillJob? new, b.Books s₀ job s) w)
      fun _ => True := by
  intro new
  unfold reconcile
  dsimp only
  apply Triple.bind (tracedReadData (g := fun s =>
    s.statesOf ((Observation.latest (Observation.reports found)).map Prod.fst))
    (fun _ => rfl) fun _ => rfl)
  intro stored
  apply Triple.assuming
  rintro rfl
  rw [s₀.newAddresses_eq]
  apply Triple.bind (tracedBackfillNew c new)
  rintro ⟨full, b⟩ w ⟨fetched, left, hsplits, hw⟩
  refine (?_ : Triple (Traced True w₀ (fetches fetched) _) _ _ _) w hw
  apply Triple.bind (Q := fun _ => Traced True w₀ (fetches fetched) fun s =>
    ∀ job ∈ s₀.backfillJob? new, b.Books s₀ job s)
  · unfold backfilledStates
    split
    · exact Triple.pure fun _ => id
    · exact (tracedRead (g := fun s => s.statesOf b.processed) fun _ => rfl).post
        fun _ _ hw => hw.mono And.right
  intro backfilled
  apply Triple.getBind
  intro v
  have hwrite (s : Store) (cs : List DelegationChange) (xs : List DelegationState)
      (hs : ∀ job ∈ s₀.backfillJob? new, b.Books s₀ job s) :
      ∀ job ∈ s₀.backfillJob? new, b.Books s₀ job (s.applyChanges cs xs) :=
    fun job hjob => (hs job hjob).congr rfl
  apply Triple.bind ((tracedWriteDifferences c _ hwrite).pre fun _ hw => hw.2)
  intro _
  exact Triple.pure fun w hw => ⟨b, fetched, left, ⟨rfl, rfl⟩, hsplits, hw⟩

end Run

theorem Observation.latest_sorted (reports : List (StakeAddress × Observation)) :
    ((latest reports).map Prod.fst).Pairwise fun a b => a.le b = true ∧ a ≠ b := by
  have hle : ((latest reports).map Prod.fst).Pairwise fun a b => a.le b = true :=
    List.pairwise_map.mpr (Identifier.pairwise_mergeSort Prod.fst _)
  exact hle.and (latest_nodup reports)

/-- How a cycle split the addresses that were pending, given what its lookups came to. -/
structure DelegationsReport.SplitsPending {L : Type} [LedgerService L] (report : DelegationsReport)
    (c : Settings) (found : List Found) (b : Backfill) (w w' : World L) : Prop where
  sorted : (b.processed ++ b.skipped).Pairwise fun x y => x.le y = true ∧ x ≠ y
  pending : ∀ a, a ∈ b.processed ++ b.skipped ↔
    Found.Reports found a ∧ w.store.states.get? a = none
  counted : report.backfilled = b.processed.length ∧ report.backfillSkipped = b.skipped.length
  requests : ∃ earlier fetched left, w.Sends (earlier ++ fetches fetched) w' ∧
    (∀ q ∈ earlier, q.endpoint ≠ .accountDelegationHistory) ∧
    b.Splits c (behind w.ledger earlier) (batches c.historyBatchSize (b.processed ++ b.skipped))
      fetched left
  untouched : ∀ a ∈ b.skipped,
    w'.store.states.get? a = none ∧ w'.store.changesOf a = w.store.changesOf a
  books : ∀ job ∈ w.store.backfillJob? (b.processed ++ b.skipped), b.Books w.store job w'.store

/-- A cycle that ends splits the addresses that were pending in order: it requested the histories of
those that it processed, batch after batch while the quota was not low, and left the others
alone. -/
theorem Run.syncDelegations_splits {L : Type} [LedgerService L] {c : Settings} {w w' : World L}
    {report : DelegationsReport} (h : syncDelegations c w = (.ok report, w')) :
    ∃ found w₁ b, observe c w = (.ok (report.epoch, found), w₁) ∧
      report.SplitsPending c found b w w' := by
  obtain ⟨found, w₁, b', s₁, hobserve, hreconcile, hreconciled, hreport⟩ :=
    syncDelegations_reconciled h
  have havoids := observe_avoids c w
  have hreads := Reads.observe c w
  rw [hobserve] at havoids hreads
  obtain ⟨earlier, hsends, hearlier⟩ := havoids
  have hstart : Traced True w₁ [] w.store.SameData w₁ := ⟨.inl trivial, .refl w₁, hreads.data⟩
  obtain ⟨b, fetched, left, hcounted, hsplits, htraced⟩ :=
    (tracedReconcile c report.epoch found).ok hstart hreconcile
  have hnew : b.processed ++ b.skipped =
      w.store.newAddresses (Observation.latest (Observation.reports found)) :=
    hsplits.addresses.trans (batches_flatten _ _)
  -- The report tells how many addresses were processed, and with that which.
  have hlength : b.processed.length = b'.processed.length :=
    hcounted.1.symm.trans (congrArg DelegationsReport.backfilled hreport)
  obtain ⟨-, hskipped⟩ := List.append_inj (hnew.trans hreconciled.split.symm) hlength
  have hobserved := Observation.latest_sorted (Observation.reports found)
  refine ⟨found, w₁, b, hobserve, ?_⟩
  constructor
  · rw [hnew]
    exact hobserved.filter _
  · intro a
    rw [hnew, ← Observation.mem_reports_addresses, ← Observation.mem_latest_addresses,
      ← Option.isNone_iff_eq_none]
    exact List.mem_filter
  · exact hcounted
  · rw [hnew]
    refine ⟨earlier, fetched, left, hsends.trans htraced.sends, hearlier, ?_⟩
    rw [← hsends.ledger]
    exact hsplits
  · intro a ha
    have hfresh : a ∈ w.store.newAddresses (Observation.latest (Observation.reports found)) :=
      hnew ▸ List.mem_append_right _ ha
    obtain ⟨hstate, hchanges⟩ := hreconciled.untouched (Observation.latest_nodup _)
      (.inr (hskipped ▸ ha))
    exact ⟨hstate.trans (Option.isNone_iff_eq_none.mp (List.mem_filter.mp hfresh).2), hchanges⟩
  · rw [hnew]
    exact htraced.store

instance : DecidableEq Found := fun f g =>
  decidable_of_iff (f.delegate = g.delegate ∧ f.reply = g.reply) (by cases f; cases g; simp)

namespace DelegationCycle

def otherDelegator : StakeAddress := ⟨"stake1u7", by decide⟩

/-- A cycle that observes two addresses and fetches their histories one by one, with as many
requests left as are kept in reserve. -/
def stopping : DelegationCycle SimulatedLedger :=
  let k := meeting ⟨530⟩ ⟨529⟩ ⟨500⟩ firstDelegate
  let delegators := ⟨[(firstDelegate, [⟨delegator, 10⟩, ⟨otherDelegator, 20⟩])]⟩
  { settings := { k.settings with historyBatchSize := 1 }
    world := { k.world with ledger := { k.world.ledger with delegators, quota := some 100 } } }

/-- The first address is processed. Its history costs a request, so the other one is skipped. -/
theorem syncDelegations_splits_stopping :
    let k := stopping
    ∃ report w', Run.syncDelegations k.settings k.world = (.ok report, w') ∧
      report.backfilled = 1 ∧ report.backfillSkipped = 1 ∧
      ∃ found w₁ b, Run.observe k.settings k.world = (.ok (report.epoch, found), w₁) ∧
        report.SplitsPending k.settings found b k.world w' := by
  intro k
  let found : List Found := [⟨firstDelegate, .ok [⟨delegator, 10⟩, ⟨otherDelegator, 20⟩]⟩]
  have hobserved : (Run.observe k.settings k.world).1.toOption = some (⟨529⟩, found) := by
    decide +kernel
  have hlatest : Observation.latest (Observation.reports found) =
      [(delegator, ⟨firstDelegate, 10⟩), (otherDelegator, ⟨firstDelegate, 20⟩)] := by
    unfold Observation.latest
    rw [List.mergeSort_of_pairwise (by decide +kernel)]
    decide +kernel
  have hreport : (Run.reconcile k.settings ⟨529⟩ found
      (Run.observe k.settings k.world).2).1.toOption.map
        (fun r => (r.backfilled, r.backfillSkipped)) = some (1, 1) := by
    unfold Run.reconcile
    rw [hlatest]
    decide +kernel
  rcases ho : Run.observe k.settings k.world with ⟨_ | o, w₁⟩ <;> rw [ho] at hobserved hreport
  · cases hobserved
  · obtain rfl := Option.some.inj hobserved
    have hsync : Run.syncDelegations k.settings k.world =
        Run.reconcile k.settings ⟨529⟩ found w₁ := by
      rw [Run.syncDelegations_eq]
      exact Run.bind_apply_of_ok ho _
    rw [← hsync] at hreport
    rcases hr : Run.syncDelegations k.settings k.world with ⟨_ | report, w'⟩ <;>
      rw [hr] at hreport
    · cases hreport
    · obtain ⟨hbackfilled, hskipped⟩ := Prod.mk.inj (Option.some.inj hreport)
      obtain ⟨found', w₁', b, hobserve, hsplits⟩ := Run.syncDelegations_splits hr
      exact ⟨report, w', rfl, hbackfilled, hskipped, found', w₁', b, ho.symm.trans hobserve,
        hsplits⟩

end DelegationCycle

end GovernanceIndex
