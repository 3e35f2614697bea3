import GovernanceIndex.Proofs.Run.Outcomes
import GovernanceIndex.Proofs.Sync.CycleRegime
import GovernanceIndex.Proofs.Sync.EpochRegime
import Mathlib.Algebra.Group.Nat.Defs

/-!
How far the cursors of backfills can come. A cursor is only ever written along with a history that
is committed, and it then says one address more than the cursor that the backfill started from. So
no cursor says more addresses than histories were committed, whatever a cycle comes to; and a cycle
crashes only where the addresses it found, beside those histories, are too many to count.
-/
namespace GovernanceIndex

def StoreCall.isCommit : StoreCall → Bool
  | .applyBackfill .. => true
  | _ => false

/-- No cursor says more addresses than that. -/
def Store.CountedBy (n : Nat) (s : Store) : Prop :=
  ∀ job k, s.cursors.get? job = some k → k.processed.toNat ≤ n

namespace Store

variable {s s' : Store} {m n : Nat}

theorem CountedBy.mono (h : s.CountedBy m) (hmn : m ≤ n) : s.CountedBy n :=
  fun job k hk => (h job k hk).trans hmn

theorem CountedBy.applyBackfill (h : s.CountedBy n) (changes : List DelegationChange)
    (state : Option DelegationState) {cursor : BackfillCursor} (hcursor : cursor.processed.toNat ≤ n) :
    (s.applyBackfill changes state cursor).CountedBy n := by
  intro job k hk
  change (s.cursors.insert cursor.job cursor).get? job = some k at hk
  rw [Table.get?_insert] at hk
  split at hk
  · cases hk
    exact hcursor
  · exact h job k hk

theorem CountedBy.sameData (h : s.CountedBy n) (hs : SameData s s') : s'.CountedBy n := by
  unfold CountedBy
  rw [hs.eq fun s => s.cursors]
  exact h

theorem CountedBy.perform (h : s.CountedBy n) {k : StoreCall} (hk : k.isCommit = false)
    {r : k.Result} (hp : s.perform k = .ok (r, s')) : s'.CountedBy n := by
  cases k with
  | acquireLease => exact h.sameData (acquireLease_sameData hp)
  | releaseLease => exact h.sameData (releaseLease_sameData hp)
  | renewLease => exact h.sameData (renewLease_sameData hp)
  | applyBackfill => cases hk
  | clearCursor name =>
    cases hp
    intro job k hget
    change (s.cursors.erase name).get? job = some k at hget
    rw [Table.get?_erase] at hget
    split at hget
    · cases hget
    · exact h job k hget
  | _ =>
    cases hp
    exact h

end Store

namespace World

variable {L : Type} {w w' : World L} {d : Option Nat} {k m n : Nat}

def commits (w : World L) : Nat := w.writes.countP StoreCall.isCommit

/-- No cursor says more addresses than histories were committed, apart from so many before. -/
def Counted (n : Nat) (w : World L) : Prop := w.store.CountedBy (n + w.commits)

/-- Histories are committed, and cursors say no more of them than that; the deadline stays. -/
structure Tallies (w w' : World L) : Prop where
  deadline : w'.deadline = w.deadline
  commits : w.commits ≤ w'.commits
  counted : ∀ n, w.Counted n → w'.Counted n

namespace Tallies

instance : IsPreorder (World L) Tallies where
  refl _ := ⟨rfl, Nat.le_refl _, fun _ => id⟩
  trans _ _ _ h h' := ⟨h'.deadline.trans h.deadline, h.commits.trans h'.commits,
    fun n hw => h'.counted n (h.counted n hw)⟩

theorem still (hdeadline : w'.deadline = w.deadline) (hstore : w'.store = w.store)
    (hwrites : w'.writes = w.writes) : Tallies w w' := by
  have hcommits : w'.commits = w.commits := congrArg (List.countP _) hwrites
  refine ⟨hdeadline, hcommits.ge, fun n hw => ?_⟩
  unfold Counted
  rw [hstore, hcommits]
  exact hw

theorem commits_le_call (w : World L) (k : StoreCall) : w.commits ≤ (w.call k).2.commits := by
  unfold World.commits
  rcases w.call_noted k with h | ⟨-, h⟩ <;> rw [h]
  rw [List.countP_append]
  exact Nat.le_add_left _ _

theorem call_deadline (w : World L) (k : StoreCall) : (w.call k).2.deadline = w.deadline := by
  obtain ⟨store, faults, writes, h⟩ := w.call_changes k
  rw [h]

theorem call (w : World L) {k : StoreCall} (hk : k.isCommit = false) : Tallies w (w.call k).2 := by
  refine ⟨call_deadline w k, commits_le_call w k, fun n hw => ?_⟩
  have hmono : n + w.commits ≤ n + (w.call k).2.commits :=
    Nat.add_le_add_left (commits_le_call w k) n
  rcases w.call_cases k with ⟨r, v, hr, hp⟩ | ⟨cause, v, hr, hs⟩ <;> rw [hr] at hmono ⊢
  · exact (Store.CountedBy.perform hw hk hp).mono hmono
  · unfold Counted
    rw [hs]
    exact Store.CountedBy.mono hw hmono

theorem read (w : World L) {k : StoreCall} (hk : k.isWrite = false) : Tallies w (w.call k).2 :=
  call w (by cases k <;> first | rfl | cases hk)

theorem advance (w : World L) (time : Nat) : Tallies w (w.advance time) := by
  have hbeats : Tallies w ((w.beats time).foldl World.beat w) :=
    List.foldlRecOn _ _ (refl_of Tallies w) fun v hv h _ =>
      trans_of Tallies hv (call v (k := .renewLease h.job v.worker.id v.now h.lease) rfl)
  have hpassed : Tallies ((w.beats time).foldl World.beat w) (w.advance time) := still rfl rfl rfl
  exact trans_of Tallies hbeats hpassed

theorem frame [LedgerService L] {writes : StoreCall → Bool}
    (hwrites : ∀ k, writes k → k.isCommit = false) :
    World.Frame writes (Tallies : World L → World L → Prop) where
  ask _ _ := still rfl rfl rfl
  read w _ := read w
  write w k hk := call w (hwrites k hk)
  advance := advance
  remember _ _ := still rfl rfl rfl

theorem syncEpochs [LedgerService L] (c : Settings) :
    Run.Shifts Tallies (Run.syncEpochs c : Run L EpochsReport) :=
  (frame fun k hk => by cases k <;> first | rfl | cases hk).syncEpochs c

end Tallies

/-- Under a deadline, no cursor says more addresses than histories were committed, apart from `n`
before, and with those they are `m` at least. -/
structure Within (d : Option Nat) (n m : Nat) (w : World L) : Prop where
  deadline : w.deadline = d
  counted : w.Counted n
  reached : m ≤ n + w.commits

theorem Within.tallies (h : w.Within d n m) (hw : Tallies w w') : w'.Within d n m :=
  ⟨hw.deadline.trans h.deadline, hw.counted n h.counted,
    h.reached.trans (Nat.add_le_add_left hw.commits n)⟩

theorem Within.any (h : w.Within d n m) : w.Within d n 0 :=
  ⟨h.deadline, h.counted, Nat.zero_le _⟩

end World

open World (Counted Tallies Within)

/-- The halts of an action that does not crash: it failed, or the deadline came. -/
inductive Halt.Orderly (d : Option Nat) : Halt → Prop where
  | failed (cause : SyncError) : Orderly d (.failed cause)
  | late (h : d.isSome) : Orderly d .timeUp

/-- How an action halts that has `k` addresses to count: in an orderly way, or it crashes since they
are too many beside the histories that were committed. -/
structure Halt.Stops {L : Type} (d : Option Nat) (n k : Nat) (halt : Halt) (w : World L) :
    Prop where
  within : w.Within d n 0
  cause : halt.Orderly d ∨
    halt = .crashed (some "attempt to add with overflow") ∧ 2 ^ 64 ≤ n + w.commits + k

theorem Halt.Stops.mono {L : Type} {w : World L} {d : Option Nat} {n k k' : Nat} {halt : Halt}
    (h : halt.Stops d n k w) (hk : k ≤ k') : halt.Stops d n k' w :=
  ⟨h.within, h.cause.imp_right fun hcrash =>
    ⟨hcrash.1, hcrash.2.trans (Nat.add_le_add_left hk _)⟩⟩

/-- Under a deadline, what keeps the count of histories may be done and comes to orderly halts
only. -/
def orderlyRegime {L : Type} [LedgerService L] (d : Option Nat) (P : World L → Prop)
    (hd : ∀ w, P w → w.deadline = d) (hP : ∀ w w', Tallies w w' → P w → P w') : Regime L where
  permits _ := True
  answers _ _ := True
  holds := P
  halts := Halt.Orderly d
  ask w q _ hw := by
    refine ⟨hP w _ (.still rfl rfl rfl) hw, ?_⟩
    split
    · trivial
    · exact .failed _
  read w k hk hw := ⟨hP w _ (.read w hk) hw, fun cause _ => .failed _⟩
  renew w job lease hw := hP w _ (.call w rfl) hw
  tick w _ _ hw := hP w _ (.still rfl rfl rfl) hw
  late w hw hlate := .late (hd w hw ▸ hlate)
  tip _ e _ _ := ⟨⟨e, none, none⟩, trivial, rfl⟩
  remember w _ _ hw := hP w _ (.still rfl rfl rfl) hw

/-- The regime of actions within a count. -/
def countingRegime (L : Type) [LedgerService L] (d : Option Nat) (n m : Nat) : Regime L :=
  orderlyRegime d (fun w => w.Within d n m) (fun _ hw => hw.deadline) fun _ _ h hw => hw.tallies h

namespace Run

variable {L α : Type} {d : Option Nat} {k m n : Nat}

/-- A history that is committed counts, and its cursor may say one address more. -/
theorem commit_counts (changes : List DelegationChange) (state : Option DelegationState)
    {cursor : BackfillCursor} (hcursor : cursor.processed.toNat ≤ m + 1) :
    Outcomes (fun w => w.Within d n m)
      (call (.applyBackfill changes state cursor) : Run L Unit)
      (fun _ w => w.Within d n (m + 1)) (Halt.Stops d n k) := by
  intro w hw
  have hnoted := w.call_noted (.applyBackfill changes state cursor)
  have hmono := Tallies.commits_le_call w (.applyBackfill changes state cursor)
  have hdeadline := Tallies.call_deadline w (.applyBackfill changes state cursor)
  have hreached := hw.reached
  rw [call_eq]
  rcases w.call_cases (.applyBackfill changes state cursor) with
    ⟨r, v, hr, hp⟩ | ⟨cause, v, hr, hs⟩ <;> rw [hr] at hnoted hmono hdeadline ⊢
  · have hwrites : v.writes = .applyBackfill changes state cursor :: w.writes :=
      hnoted.resolve_right fun h => nomatch h.1
    have hcommits : v.commits = w.commits + 1 :=
      (congrArg (List.countP _) hwrites).trans (List.countP_cons_of_pos rfl)
    have hstore : v.store = w.store.applyBackfill changes state cursor :=
      (Prod.mk.inj (Except.ok.inj hp)).2.symm
    refine ⟨hdeadline.trans hw.deadline, ?_, by omega⟩
    unfold Counted
    rw [hstore, hcommits]
    exact (Store.CountedBy.mono hw.counted (Nat.le_succ _)).applyBackfill changes state (by omega)
  · refine ⟨⟨hdeadline.trans hw.deadline, ?_, Nat.zero_le _⟩, .inl (.failed _)⟩
    unfold Counted
    rw [hs]
    exact Store.CountedBy.mono hw.counted (Nat.add_le_add_left hmono n)

theorem toNat_add_ofNat_le (before : UInt64) (k : Nat) :
    (before + UInt64.ofNat k).toNat ≤ before.toNat + k := by
  rw [UInt64.toNat_add, UInt64.toNat_ofNat']
  exact (Nat.mod_le _ _).trans (Nat.add_le_add_left (Nat.mod_le _ _) _)

theorem backfillBatch_counts (job : String) (total : UInt64)
    (histories : Table StakeAddress (List DelegationUpdate)) {before : UInt64} (b : Backfill)
    (addresses : List StakeAddress) (hbefore : before.toNat ≤ m) :
    Outcomes (fun w => w.Within d n m)
      (backfillBatch job total histories before b addresses : Run L Backfill)
      (fun _ w => w.Within d n (m + addresses.length)) (Halt.Stops d n k) := by
  induction addresses generalizing before b m with
  | nil => exact Outcomes.pure fun _ => id
  | cons address rest ih =>
    have hnext : (before + 1).toNat ≤ m + 1 :=
      (toNat_add_ofNat_le before 1).trans (Nat.add_le_add_right hbefore 1)
    unfold backfillBatch
    apply Outcomes.getBind
    intro w₀ _
    apply Outcomes.bind (commit_counts _ _ hnext)
    intro _
    rw [List.length_cons, Nat.add_comm rest.length, ← Nat.add_assoc]
    exact ih _ hnext

variable [LedgerService L]

theorem counts {x : Run L α} {V : α → Prop} (h : (countingRegime L d n m).Runs x V) :
    Outcomes (fun w => w.Within d n m) x (fun _ w => w.Within d n m) (Halt.Stops d n k) :=
  h.outcomes.mono (fun _ => id) (fun _ _ hw => hw.2) fun _ _ hw => ⟨hw.2.any, .inl hw.1⟩

theorem readCounts {q : StoreCall} (hq : q.isWrite = false) :
    Outcomes (fun w => w.Within d n m) (call q : Run L q.Result) (fun _ w => w.Within d n m)
      (Halt.Stops d n k) :=
  counts ((countingRegime L d n m).readCall hq)

theorem writeCounts {q : StoreCall} (hq : q.isCommit = false) :
    Outcomes (fun w => w.Within d n m) (call q : Run L q.Result) (fun _ w => w.Within d n m)
      (Halt.Stops d n k) := by
  apply counts (V := fun _ => True)
  apply Regime.call
  intro w hw
  refine ⟨Within.tallies hw (.call w hq), ?_⟩
  split
  · trivial
  · exact .failed _

theorem backfillBatches_counts (c : Settings) (job : String) (total : UInt64) {before : UInt64}
    (b : Backfill) (batches : List (List StakeAddress)) (hbefore : before.toNat ≤ m) :
    Outcomes (fun w => w.Within d n m)
      (backfillBatches c job total before b batches : Run L Backfill)
      (fun _ w => w.Within d n 0) (Halt.Stops d n k) := by
  induction batches generalizing before b m with
  | nil => exact Outcomes.pure fun _ hw => hw.any
  | cons batch rest ih =>
    have hquota : Outcomes (fun w => w.Within d n m) (quotaIsLow c : Run L Bool)
        (fun _ w => w.Within d n m) (Halt.Stops d n k) :=
      Outcomes.getBind fun _ _ => Outcomes.pure fun _ => id
    unfold backfillBatches
    apply Outcomes.bind hquota
    intro low
    split
    · exact Outcomes.pure fun _ hw => hw.any
    · apply Outcomes.bind (counts ((countingRegime L d n m).request trivial c))
      intro histories
      apply Outcomes.bind (backfillBatch_counts job total _ b batch hbefore)
      exact fun b' => ih b' ((toNat_add_ofNat_le _ _).trans (Nat.add_le_add_right hbefore _))

/-- A backfill that starts from a cursor of the store crashes only if there are too many addresses
to count. -/
theorem backfill_counts (c : Settings) (job : String) (addresses : List StakeAddress)
    {cursor : Option BackfillCursor} (hcursor : ∀ x ∈ cursor, x.processed.toNat ≤ m) :
    Outcomes (fun w => w.Within d n m) (backfill c job addresses cursor : Run L Backfill)
      (fun _ w => w.Within d n 0) (Halt.Stops d n addresses.length) := by
  have hbefore : ((cursor.map fun x : BackfillCursor => x.processed).getD 0).toNat ≤ m := by
    rcases cursor with _ | x
    · exact Nat.zero_le m
    · exact hcursor x rfl
  unfold backfill
  dsimp only
  split
  · next hmany =>
    refine Outcomes.throw fun w hw => ⟨hw.any, .inr ⟨rfl, ?_⟩⟩
    have hreached := hw.reached
    unfold Word.add64? at hmany
    split at hmany
    · cases hmany
    · omega
  · apply Outcomes.bind (backfillBatches_counts c job _ {} _ hbefore)
    intro b
    split
    · apply Outcomes.bind (writeCounts rfl)
      intro _
      split
      · exact Outcomes.getBind fun w _ => Outcomes.bind (writeCounts rfl) fun _ =>
          Outcomes.pure fun _ => id
      · exact Outcomes.pure fun _ => id
    · exact Outcomes.pure fun _ => id

omit [LedgerService L] in
theorem cursor_counts (job : String) :
    Outcomes (fun w => w.Within d n 0) (call (.cursor job) : Run L (Option BackfillCursor))
      (fun cursor w => ∃ m, (∀ x ∈ cursor, x.processed.toNat ≤ m) ∧ w.Within d n m)
      (Halt.Stops d n k) := by
  intro w hw
  have hkept := hw.tallies (.read w (k := .cursor job) rfl)
  rw [call_eq]
  rcases w.call_cases (.cursor job) with ⟨r, v, hr, hp⟩ | ⟨cause, v, hr, -⟩ <;>
    rw [hr] at hkept ⊢
  · obtain ⟨rfl, hstore⟩ := Prod.mk.inj (Except.ok.inj hp)
    refine ⟨n + v.commits, fun x hx => ?_, hkept.deadline, hkept.counted, Nat.le_refl _⟩
    rw [hstore] at hx
    exact hkept.counted job x hx
  · exact ⟨hkept, .inl (.failed _)⟩

theorem fullBackfill_counts :
    Outcomes (fun w => w.Within d n 0) (fullBackfill : Run L (Bool × Option BackfillCursor))
      (fun r w => ∃ m, (∀ x ∈ r.2, x.processed.toNat ≤ m) ∧ w.Within d n m)
      (Halt.Stops d n k) := by
  apply Outcomes.bind (readCounts rfl)
  intro isDone
  apply Outcomes.bind (cursor_counts fullBackfillJob)
  intro cursor
  split
  · exact Outcomes.pure fun _ => id
  · split
    · exact Outcomes.pure fun _ => id
    · apply Outcomes.ofSome
      intro m
      apply Outcomes.assuming
      intro hcursor
      exact Outcomes.bind (readCounts rfl) fun _ => Outcomes.pure fun w hw => ⟨m, hcursor, hw⟩

theorem backfillNew_counts (c : Settings) (addresses : List StakeAddress) :
    Outcomes (fun w => w.Within d n 0) (backfillNew c addresses : Run L (Bool × Backfill))
      (fun _ w => w.Within d n 0) (Halt.Stops d n addresses.length) := by
  have hfrom (job : String) (cursor : Option BackfillCursor) (full : Bool) :
      Outcomes (fun w => ∃ m, (∀ x ∈ cursor, x.processed.toNat ≤ m) ∧ w.Within d n m)
        (backfill c job addresses cursor >>= fun b => pure (full, b) : Run L (Bool × Backfill))
        (fun _ w => w.Within d n 0) (Halt.Stops d n addresses.length) := by
    apply Outcomes.ofSome
    intro m
    apply Outcomes.assuming
    intro hcursor
    exact Outcomes.bind (backfill_counts c job addresses hcursor) fun _ => Outcomes.pure fun _ => id
  unfold backfillNew
  apply Outcomes.bind fullBackfill_counts
  rintro ⟨full, cursor⟩
  dsimp only
  split
  · exact hfrom fullBackfillJob cursor true
  · split
    · exact Outcomes.pure fun _ hw => hw.elim fun _ h => h.2.any
    · apply Outcomes.bind ((cursor_counts incrementalBackfillJob).mono
        (fun _ hw => hw.elim fun _ h => h.2.any) (fun _ _ => id) fun _ _ => id)
      exact fun cursor => hfrom incrementalBackfillJob cursor false

theorem backfilledStates_counts (b : Backfill) :
    Outcomes (fun w => w.Within d n m)
      (backfilledStates b : Run L (Table StakeAddress DelegationState))
      (fun _ w => w.Within d n m) (Halt.Stops d n k) := by
  unfold backfilledStates
  split
  · exact Outcomes.pure fun _ => id
  · exact readCounts rfl

theorem writeDifferences_counts (c : Settings) (ds : List Difference) :
    Outcomes (fun w => w.Within d n m) (writeDifferences c ds : Run L Unit)
      (fun _ w => w.Within d n m) (Halt.Stops d n k) := by
  unfold writeDifferences
  induction batches c.writeBatchSize ds with
  | nil => exact Outcomes.pure fun _ => id
  | cons batch rest ih => exact Outcomes.bind (writeCounts rfl) fun _ => ih

theorem reconcile_counts (c : Settings) (epoch : Epoch) (found : List Found) :
    Outcomes (fun w => w.Within d n 0) (reconcile c epoch found : Run L DelegationsReport)
      (fun _ w => w.Within d n 0)
      (Halt.Stops d n (Observation.latest (Observation.reports found)).length) := by
  unfold reconcile
  dsimp only
  apply Outcomes.bind (readCounts rfl)
  intro stored
  have hfewer := (List.length_filter_le (fun a => (stored.get? a).isNone)
    ((Observation.latest (Observation.reports found)).map Prod.fst)).trans_eq (List.length_map _)
  apply Outcomes.bind ((backfillNew_counts c _).mono (fun _ => id) (fun _ _ => id)
    fun _ _ h => h.mono hfewer)
  rintro ⟨full, b⟩
  apply Outcomes.bind (backfilledStates_counts b)
  intro backfilled
  apply Outcomes.getBind
  intro w _
  exact Outcomes.bind (writeDifferences_counts c _) fun _ => Outcomes.pure fun _ => id

theorem observe_counts (c : Settings) :
    (countingRegime L d n m).Runs (observe c) fun _ => True := by
  refine Regime.observe ⟨trivial, fun _ => trivial, fun _ => trivial, fun _ _ => trivial,
    fun _ _ => trivial, fun w _ _ hw => ?_, fun _ => Halt.Orderly.failed _⟩ c
  exact Within.tallies hw (.still rfl rfl rfl)

/-- A cycle crashes only where it observed too many addresses to count beside the histories that
were committed. -/
theorem syncDelegations_counts (c : Settings) {w : World L} (hw : w.Within d n 0) :
    match syncDelegations c w with
    | (.ok _, w') => w'.Within d n 0
    | (.error halt, w') => w'.Within d n 0 ∧ (halt.Orderly d ∨
        halt = .crashed (some "attempt to add with overflow") ∧
          ∃ epoch found v, observe c w = (.ok (epoch, found), v) ∧
            2 ^ 64 ≤ n + w'.commits + (Observation.latest (Observation.reports found)).length) := by
  have hobserve := (observe_counts c).outcomes w hw
  rw [syncDelegations_eq, bind_apply]
  rcases ho : observe c w with ⟨halt | ⟨epoch, found⟩, v⟩ <;> rw [ho] at hobserve
  · exact ⟨hobserve.2, .inl hobserve.1⟩
  · have hreconcile := reconcile_counts c epoch found v hobserve.2
    dsimp only
    rcases hr : reconcile c epoch found v with ⟨halt | report, w'⟩ <;> rw [hr] at hreconcile
    · exact ⟨hreconcile.within, hreconcile.cause.imp_right fun hcrash =>
        ⟨hcrash.1, epoch, found, v, rfl, hcrash.2⟩⟩
    · exact hreconcile

theorem syncEpochs_counts (c : Settings) :
    Outcomes (fun w => w.Within d n m) (syncEpochs c : Run L EpochsReport)
      (fun _ w => w.Within d n m) (fun halt w => halt.Orderly d ∧ w.Within d n m) := by
  -- Steps may do any write that cannot fail, so their regime is one that does not count.
  let r : Regime L := orderlyRegime d (fun w => w.deadline = d) (fun _ => id)
    fun _ _ h hw => h.deadline.trans hw
  have hgrants (epoch : Epoch) (step : EpochStep) : r.Grants epoch step :=
    { own := fun _ _ _ _ _ => trivial
      inventory := fun _ _ _ _ _ _ _ _ _ => trivial
      write := fun k _ => Regime.call fun w hw => by
        refine ⟨(Tallies.call_deadline w k).trans hw, ?_⟩
        split
        · trivial
        · exact .failed _
      remember := fun _ _ hw => hw
      incomplete := fun _ _ _ _ => .failed _ }
  have hruns := Regime.syncEpochs (r := r) trivial hgrants c
  intro w hw
  have hends := (hruns w hw.deadline).2
  have hkept := hw.tallies (Tallies.syncEpochs c w)
  rcases hr : syncEpochs c w with ⟨halt | report, v⟩ <;> rw [hr] at hends hkept
  · exact ⟨hends, hkept⟩
  · exact hkept

end Run

end GovernanceIndex
