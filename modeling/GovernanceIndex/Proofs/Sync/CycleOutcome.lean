import GovernanceIndex.Proofs.Run.Outcomes
import GovernanceIndex.Proofs.Sync.Backlog
import GovernanceIndex.Proofs.Sync.FullBackfill

/-!
What the second part of a cycle comes to. It replays histories of addresses that have no state and
applies the differences of the addresses that were observed, and its report counts just that. How
the addresses and the differences are cut into batches does not show in it. Where nothing fails and
no quota is named, it skips no address, and halts only if its backfill has too many addresses to
count.
-/
namespace GovernanceIndex

open LedgerService (Answers Reacts)
open Store (SameData)

/-- No call of the store meets a fault, there is no deadline, and the service has histories for any
addresses and names no quota. -/
structure World.Sound {L : Type} [LedgerService L] (w : World L) : Prop where
  faultless : w.Faultless
  deadline : w.deadline = none
  quota : ∀ l, Reacts w.ledger l → LedgerService.quota l = none
  histories : ∀ l, Reacts w.ledger l → ∀ addresses : List StakeAddress,
    (LedgerService.react l (.histories addresses)).1.isOk

/-- A world at a time with a store that has a property. The service answers in some way, and nothing
fails, unless it may. -/
structure World.Stage {L : Type} [LedgerService L] (mayFail : Prop)
    (V : (q : Request) → q.Answer → Prop) (now : Timestamp) (P : Store → Prop) (w : World L) :
    Prop where
  now : w.now = now
  answers : Answers V w.ledger
  sound : mayFail ∨ w.Sound
  store : P w.store

open World (Sound Stage)

variable {L : Type} [LedgerService L] {mayFail : Prop} {V : (q : Request) → q.Answer → Prop}
  {now : Timestamp} {P P' : Store → Prop}

namespace World

variable {w : World L}

theorem Sound.call (h : w.Sound) (c : StoreCall) : (w.call c).2.Sound := by
  have hfaultless := h.faultless.call c
  obtain ⟨store, faults, writes, hcall⟩ := w.call_changes c
  rw [hcall] at hfaultless ⊢
  exact ⟨hfaultless, h.deadline, h.quota, h.histories⟩

theorem Sound.ask (h : w.Sound) (q : Request) : (w.ask q).2.Sound := by
  have hstep : Reacts w.ledger (LedgerService.react w.ledger q).2 :=
    Relation.ReflTransGen.single ⟨q, rfl⟩
  exact ⟨h.faultless, h.deadline, fun l hl => h.quota l (trans_of Reacts hstep hl),
    fun l hl => h.histories l (trans_of Reacts hstep hl)⟩

theorem Stage.mono (h : Stage mayFail V now P w) (hP : P w.store → P' w.store) :
    Stage mayFail V now P' w := ⟨h.now, h.answers, h.sound, hP h.store⟩

theorem Stage.call (h : Stage mayFail V now P w) (c : StoreCall) (hP : P' (w.call c).2.store) :
    Stage mayFail V now P' (w.call c).2 := by
  have hsound : mayFail ∨ (w.call c).2.Sound := h.sound.imp id fun hsound => hsound.call c
  obtain ⟨store, faults, writes, hcall⟩ := w.call_changes c
  rw [hcall] at hsound hP ⊢
  exact ⟨h.now, h.answers, hsound, hP⟩

end World

/-- Histories may be requested, and the data of the store stays as it is meanwhile. -/
def stageRegime (mayFail : Prop) (V : (q : Request) → q.Answer → Prop) (now : Timestamp)
    (hP : ∀ s s', SameData s s' → P s → P s') : Regime L where
  permits q := ∃ addresses, q = .histories addresses
  answers q a := q = .tip ∨ V q a
  holds := Stage mayFail V now P
  halts _ := mayFail
  ask w q hq hw := by
    have hstep : Reacts w.ledger (LedgerService.react w.ledger q).2 :=
      Relation.ReflTransGen.single ⟨q, rfl⟩
    refine ⟨⟨hw.now, hw.answers.reacts hstep, hw.sound.imp id fun h => h.ask q, hw.store⟩, ?_⟩
    rcases hr : (w.ask q).1 with cause | a <;> dsimp only
    · apply hw.sound.resolve_right
      intro hsound
      obtain ⟨addresses, rfl⟩ := hq
      have hok := hsound.histories w.ledger (refl_of Reacts w.ledger) addresses
      have hrefused : (LedgerService.react w.ledger (.histories addresses)).1 = .error cause := hr
      rw [hrefused] at hok
      cases hok
    · exact .inr (hw.answers w.ledger (refl_of Reacts w.ledger) q a hr)
  read w c hc hw := by
    refine ⟨hw.call c ?_, fun cause hr => hw.sound.resolve_right fun hsound => ?_⟩
    · rw [World.call_store hc]
      exact hw.store
    · exact hsound.faultless.reads hc hr
  renew w job lease hw := hw.call _ (hP _ _ (w.renew_passes job lease).data hw.store)
  tick w clock heartbeats hw :=
    ⟨hw.now, hw.answers, hw.sound.imp id fun h => ⟨h.1, h.2, h.3, h.4⟩, hw.store⟩
  late w hw hlate := by
    apply hw.sound.resolve_right
    intro hsound
    rw [hsound.deadline] at hlate
    cases hlate
  tip _ e _ _ := ⟨⟨e, none, none⟩, .inl rfl, rfl⟩
  remember w _ _ hw :=
    ⟨hw.now, hw.answers, hw.sound.imp id fun h => ⟨h.1, h.2, h.3, h.4⟩, hw.store⟩

namespace Run

theorem stageCall {c : StoreCall} {Q : c.Result → Store → Prop} {effect : Store → c.Result × Store}
    (hc : ∀ s : Store, s.perform c = .ok (effect s))
    (hQ : ∀ s, P s → Q (effect s).1 (effect s).2) :
    Outcomes (Stage mayFail V now P) (call c : Run L c.Result)
      (fun r => Stage mayFail V now (Q r)) (fun _ _ => mayFail) := by
  apply Outcomes.triple_iff.mp
  apply Triple.callTo hc
  · intro w hw hstore
    exact hw.call c (hstore ▸ hQ w.store hw.store)
  · intro w cause hw hr
    apply hw.sound.resolve_right
    intro hsound
    cases hr.symm.trans (hsound.faultless.answers (hc w.store))

theorem stageRead {s₀ : Store} {c : StoreCall} {f : Store → c.Result}
    (hc : ∀ s : Store, s.perform c = .ok (f s, s)) (hf : ∀ s : Store, f s.data = f s) :
    Outcomes (Stage mayFail V now s₀.SameData) (call c : Run L c.Result)
      (fun r w => r = f s₀ ∧ Stage mayFail V now s₀.SameData w) (fun _ _ => mayFail) := by
  have hread : Outcomes (Stage mayFail V now s₀.SameData) (call c : Run L c.Result)
      (fun r => Stage mayFail V now fun s => r = f s₀ ∧ s₀.SameData s) (fun _ _ => mayFail) :=
    stageCall hc fun s hs => ⟨hs.eq f hf, hs⟩
  exact hread.post fun r w hw => ⟨hw.store.1, hw.mono And.right⟩

theorem stageHistories (hP : ∀ s s', SameData s s' → P s → P s') (c : Settings)
    (addresses : List StakeAddress) :
    Outcomes (Stage mayFail V now P)
      (request c (.histories addresses) : Run L (List DelegationHistory))
      (fun hs w => V (.histories addresses) hs ∧ Stage mayFail V now P w)
      (fun _ _ => mayFail) := by
  have hrequest := ((stageRegime (L := L) mayFail V now hP).request
    ⟨addresses, rfl⟩ c).outcomes
  exact hrequest.mono (fun _ => id) (fun hs w hw => ⟨hw.1.resolve_left nofun, hw.2⟩)
    fun _ _ hw => hw.1

theorem stageQuota (c : Settings) :
    Outcomes (Stage mayFail V now P) (quotaIsLow c : Run L Bool)
      (fun low w => (mayFail ∨ low = false) ∧ Stage mayFail V now P w) (fun _ _ => mayFail) := by
  apply Outcomes.getBind
  intro w₀ hw₀
  refine Outcomes.pure fun w hw => ⟨hw₀.sound.imp id fun hsound => ?_, hw⟩
  rw [hsound.quota w₀.ledger (refl_of Reacts w₀.ledger)]
  rfl

end Run

namespace Store

/-- The store apart from its leases and the books of its backfills. -/
def content (s : Store) : Store := { s with locks := {}, cursors := {}, finishedBackfills := [] }

/-- Histories that addresses may have were replayed, one address after the other. -/
inductive Replays (Served : StakeAddress → List DelegationUpdate → Prop) (now : Timestamp)
    (s : Store) : List StakeAddress → Store → Prop
  | nil : Replays Served now s [] s
  | snoc {done : List StakeAddress} {s' : Store} {a : StakeAddress} {us : List DelegationUpdate}
      (h : Replays Served now s done s') (hus : Served a us) :
      Replays Served now s (done ++ [a])
        (s'.applyChanges (History.replay a us now).1 (History.replay a us now).2.toList)

namespace Replays

variable {Served : StakeAddress → List DelegationUpdate → Prop} {s s' : Store}
  {done : List StakeAddress} {a : StakeAddress}

theorem get?_of_not_mem (h : Replays Served now s done s') (ha : a ∉ done) :
    s'.states.get? a = s.states.get? a := by
  induction h with
  | nil => rfl
  | @snoc done s' b us h hus ih =>
    simp only [List.mem_append, List.mem_singleton, not_or] at ha
    obtain ⟨-, hstate⟩ := History.replay_address b us now
    exact (s'.applyChanges_states_of_ne _ hstate ha.2).trans (ih ha.1)

theorem changesOf_of_not_mem (h : Replays Served now s done s') (ha : a ∉ done) :
    s'.changesOf a = s.changesOf a := by
  induction h with
  | nil => rfl
  | @snoc done s' b us h hus ih =>
    simp only [List.mem_append, List.mem_singleton, not_or] at ha
    obtain ⟨hchanges, -⟩ := History.replay_address b us now
    exact (s'.applyChanges_changesOf_of_ne _ hchanges ha.2).trans (ih ha.1)

theorem changes_prefix (h : Replays Served now s done s') : s.changes <+: s'.changes := by
  induction h with
  | nil => exact List.prefix_refl s.changes
  | @snoc done s' b us h hus ih => exact ih.trans (List.prefix_append s'.changes _)

end Replays

/-- The name under which a cycle backfills new addresses, if it backfills at all. -/
def backfillJob? (s : Store) (new : List StakeAddress) : Option String :=
  if ¬ s.Finished ∧ (s.Begun ∨ s.Blank) then some fullBackfillJob
  else if new.isEmpty then none
  else some incrementalBackfillJob

theorem backfillJob?_eq_none {s : Store} {new : List StakeAddress} :
    s.backfillJob? new = none ↔ ¬ (¬ s.Finished ∧ (s.Begun ∨ s.Blank)) ∧ new = [] := by
  unfold backfillJob?
  by_cases hdue : ¬ s.Finished ∧ (s.Begun ∨ s.Blank) <;> simp [hdue]

/-- How many addresses a backfill has to do and has done, if that can be counted. -/
def backfillTotal? (s : Store) (job : String) (new : List StakeAddress) : Option UInt64 :=
  Word.add64? (((s.cursors.get? job).map fun k => k.processed).getD 0) new.length

/-- The backfill of new addresses has too many addresses to count. -/
def Overflows (s : Store) (new : List StakeAddress) : Prop :=
  ∃ job ∈ s.backfillJob? new, s.backfillTotal? job new = none

/-- The store with the books of a backfill closed: its cursor is cleared, and the full backfill is
marked as finished. -/
def closeBackfill (s : Store) : Option String → Store
  | none => s
  | some job =>
    { s with
      cursors := s.cursors.erase job
      finishedBackfills :=
        if job = fullBackfillJob then s.finishedBackfills.insert job else s.finishedBackfills }

theorem closeBackfill_full (s : Store) {job : String} (h : job = fullBackfillJob) :
    s.closeBackfill (some job) = (s.clearCursor job).markBackfillDone job := by
  unfold closeBackfill
  simp only [if_pos h]
  rfl

theorem closeBackfill_of_ne (s : Store) {job : String} (h : job ≠ fullBackfillJob) :
    s.closeBackfill (some job) = s.clearCursor job := by
  unfold closeBackfill
  simp only [if_neg h]
  rfl

end Store

open Store (Replays)

namespace Backfill

variable {Served : StakeAddress → List DelegationUpdate → Prop} {job : String} {s₀ s s' : Store}
  {b : Backfill}

/-- The store in the middle of a backfill. -/
structure Reached (Served : StakeAddress → List DelegationUpdate → Prop) (now : Timestamp)
    (job : String) (s₀ : Store) (b : Backfill) (s : Store) : Prop where
  content : Replays Served now s₀.content b.processed s.content
  changes : s.changes.length = s₀.changes.length + b.changes
  cursors : s.cursors.erase job = s₀.cursors.erase job
  finished : s.finishedBackfills = s₀.finishedBackfills

/-- The store behind a backfill, whose books are closed if it skipped no address. -/
structure Closed (Served : StakeAddress → List DelegationUpdate → Prop) (now : Timestamp)
    (job : Option String) (s₀ : Store) (b : Backfill) (s : Store) : Prop where
  content : Replays Served now s₀.content b.processed s.content
  changes : s.changes.length = s₀.changes.length + b.changes
  books : b.skipped = [] → s.cursors = (s₀.closeBackfill job).cursors ∧
    s.finishedBackfills = (s₀.closeBackfill job).finishedBackfills

theorem reached_of_sameData (h : s₀.SameData s) : Reached Served now job s₀ {} s where
  content := by
    rw [h.eq Store.content]
    exact .nil
  changes := h.eq fun s => s.changes.length
  cursors := by rw [h.eq fun s => s.cursors]
  finished := h.eq fun s => s.finishedBackfills

theorem Reached.sameData (h : Reached Served now job s₀ b s) (hs : s.SameData s') :
    Reached Served now job s₀ b s' where
  content := (hs.eq Store.content).symm ▸ h.content
  changes := (hs.eq fun s => s.changes.length).trans h.changes
  cursors := (hs.eq fun s => s.cursors.erase job).trans h.cursors
  finished := (hs.eq fun s => s.finishedBackfills).trans h.finished

theorem Reached.commit (h : Reached Served now job s₀ b s) {a : StakeAddress}
    {us : List DelegationUpdate} (hus : Served a us) {cursor : BackfillCursor}
    (hcursor : cursor.job = job) :
    Reached Served now job s₀
      { b with
        processed := b.processed ++ [a],
        changes := b.changes + (History.replay a us now).1.length }
      (s.applyBackfill (History.replay a us now).1 (History.replay a us now).2 cursor) := by
  constructor
  · exact h.content.snoc hus
  · have happend : (s.applyBackfill (History.replay a us now).1 (History.replay a us now).2
        cursor).changes = s.changes ++ (History.replay a us now).1 := rfl
    rw [happend, List.length_append, h.changes, Nat.add_assoc]
  · subst hcursor
    exact (Table.erase_insert s.cursors _ _).trans h.cursors
  · exact h.finished

theorem Reached.closed_of_skipped (h : Reached Served now job s₀ b s) (hskipped : b.skipped ≠ []) :
    Closed Served now (some job) s₀ b s :=
  ⟨h.content, h.changes, fun hnone => absurd hnone hskipped⟩

theorem Reached.closed (h : Reached Served now job s₀ b s) :
    Closed Served now (some job) s₀ b (s.closeBackfill (some job)) := by
  refine ⟨h.content, h.changes, fun _ => ⟨h.cursors, ?_⟩⟩
  change (if job = fullBackfillJob then _ else _) = if job = fullBackfillJob then _ else _
  rw [h.finished]

theorem closed_of_sameData (h : s₀.SameData s) : Closed Served now none s₀ {} s :=
  have hstart : Reached Served now fullBackfillJob s₀ {} s := reached_of_sameData h
  ⟨hstart.content, hstart.changes, fun _ => ⟨h.eq fun s => s.cursors, hstart.finished⟩⟩

end Backfill

namespace Run

variable {Served : StakeAddress → List DelegationUpdate → Prop} {s₀ : Store}

open Backfill (Reached Closed)

theorem backfillBatch_outcome (job : String) (total : UInt64)
    {histories : Table StakeAddress (List DelegationUpdate)} (before : UInt64) (b : Backfill)
    {addresses : List StakeAddress}
    (hserved : ∀ a ∈ addresses, Served a ((histories.get? a).getD [])) :
    Outcomes (Stage mayFail V now (Reached Served now job s₀ b))
      (backfillBatch job total histories before b addresses : Run L Backfill)
      (fun b' w => (b'.processed = b.processed ++ addresses ∧ b'.skipped = b.skipped) ∧
        Stage mayFail V now (Reached Served now job s₀ b') w) (fun _ _ => mayFail) := by
  induction addresses generalizing before b with
  | nil => exact Outcomes.pure fun w hw => ⟨⟨(List.append_nil b.processed).symm, rfl⟩, hw⟩
  | cons a rest ih =>
    obtain ⟨hserveda, hservedrest⟩ := List.forall_mem_cons.mp hserved
    unfold backfillBatch
    apply Outcomes.getBind
    intro w₀ hw₀
    rw [hw₀.now]
    apply Outcomes.bind (Q := fun _ => Stage mayFail V now (Reached Served now job s₀
      { b with
        processed := b.processed ++ [a],
        changes := b.changes +
          (History.replay a ((histories.get? a).getD []) now).1.length }))
    · exact stageCall (fun _ => rfl) fun s hs => hs.commit hserveda rfl
    · intro _
      apply (ih (before + 1) _ hservedrest).post
      rintro b' w ⟨⟨hprocessed, hskipped⟩, hw⟩
      refine ⟨⟨?_, hskipped⟩, hw⟩
      rw [hprocessed, List.append_assoc, List.singleton_append]

theorem backfillBatches_outcome (hV : HistoriesServe V Served) (c : Settings) (job : String)
    (total before : UInt64) {b : Backfill} (hskipped : b.skipped = [])
    (batches : List (List StakeAddress)) :
    Outcomes (Stage mayFail V now (Reached Served now job s₀ b))
      (backfillBatches c job total before b batches : Run L Backfill)
      (fun b' w => (b'.processed ++ b'.skipped = b.processed ++ batches.flatten ∧
          (mayFail ∨ b'.skipped = [])) ∧
        Stage mayFail V now (Reached Served now job s₀ b') w) (fun _ _ => mayFail) := by
  induction batches generalizing before b with
  | nil =>
    refine Outcomes.pure fun w hw => ⟨⟨?_, .inr hskipped⟩, hw⟩
    rw [hskipped, List.flatten_nil]
  | cons batch rest ih =>
    unfold backfillBatches
    apply Outcomes.bind (stageQuota c)
    intro low
    apply Outcomes.assuming
    intro hlow
    split
    · next hyes =>
      refine Outcomes.pure fun w hw => ⟨⟨rfl, hlow.imp id fun hno => ?_⟩, ?_⟩
      · rw [hno] at hyes
        cases hyes
      · exact hw.mono fun h => ⟨h.content, h.changes, h.cursors, h.finished⟩
    · apply Outcomes.bind (stageHistories (fun s s' hs h => h.sameData hs) c batch)
      intro histories
      apply Outcomes.assuming
      intro hanswered
      apply Outcomes.bind (backfillBatch_outcome job total before b (hV batch histories hanswered))
      intro b'
      apply Outcomes.assuming
      rintro ⟨hprocessed, hsame⟩
      rw [List.flatten_cons, ← List.append_assoc, ← hprocessed]
      exact ih _ (hsame.trans hskipped)

/-- A backfill of addresses does some first part of them, all where nothing fails; or it halts at
once since it has too many addresses to count. -/
theorem backfill_outcome (hV : HistoriesServe V Served) (c : Settings) (job : String)
    (addresses : List StakeAddress) :
    Outcomes (Stage mayFail V now s₀.SameData)
      (backfill c job addresses (s₀.cursors.get? job) : Run L Backfill)
      (fun b w => (s₀.backfillTotal? job addresses ≠ none ∧
          b.processed ++ b.skipped = addresses ∧ (mayFail ∨ b.skipped = [])) ∧
        Stage mayFail V now (Closed Served now (some job) s₀ b) w)
      (fun halt w => mayFail ∨ s₀.backfillTotal? job addresses = none ∧
        halt = .crashed (some "attempt to add with overflow") ∧ s₀.SameData w.store) := by
  unfold backfill
  dsimp only
  have htotal : Word.add64? (((s₀.cursors.get? job).map fun k => k.processed).getD 0)
      addresses.length = s₀.backfillTotal? job addresses := rfl
  rw [htotal]
  split
  · exact Outcomes.throw fun w hw => .inr ⟨‹_›, rfl, hw.store⟩
  · next total hsome =>
    rw [hsome]
    have hstart (w : World L) (hw : Stage mayFail V now s₀.SameData w) :
        Stage mayFail V now (Reached Served now job s₀ {}) w := hw.mono Backfill.reached_of_sameData
    apply Outcomes.bind ((backfillBatches_outcome hV c job total _ rfl _).mono hstart
      (fun _ _ => id) fun _ _ => Or.inl)
    intro b
    apply Outcomes.assuming
    rintro ⟨hall, hcomplete⟩
    replace hall : b.processed ++ b.skipped = addresses := hall.trans (batches_flatten _ _)
    have hfacts : some total ≠ none ∧ b.processed ++ b.skipped = addresses ∧
        (mayFail ∨ b.skipped = []) := ⟨nofun, hall, hcomplete⟩
    split
    · apply Outcomes.bind
      · exact (stageCall (Q := fun _ s => ∃ s', Reached Served now job s₀ b s' ∧
          s = s'.clearCursor job) (fun _ => rfl) fun s hs => ⟨s, hs, rfl⟩).mono (fun _ => id)
            (fun _ _ => id) fun _ _ => Or.inl
      · intro _
        split
        · next hfull =>
          apply Outcomes.getBind
          intro w _
          apply Outcomes.bind
          · exact (stageCall (Q := fun _ => Closed Served now (some job) s₀ b) (fun _ => rfl)
              (by
                rintro _ ⟨s, hs, rfl⟩
                have hclosed := hs.closed
                rw [s.closeBackfill_full hfull] at hclosed
                exact hclosed)).mono (fun _ => id) (fun _ _ => id) fun _ _ => Or.inl
          · intro _
            exact Outcomes.pure fun w hw => ⟨hfacts, hw⟩
        · next hpart =>
          refine Outcomes.pure fun w hw => ⟨hfacts, hw.mono ?_⟩
          rintro ⟨s, hs, hstore⟩
          have hclosed := hs.closed
          rw [s.closeBackfill_of_ne hpart] at hclosed
          rw [hstore]
          exact hclosed
    · next hskipped =>
      refine Outcomes.pure fun w hw => ⟨hfacts, hw.mono fun h => h.closed_of_skipped ?_⟩
      exact fun hnone => hskipped (List.isEmpty_iff.mpr hnone)

/-- Where reads tell what the data of `s₀` says, the addresses without a state are backfilled under
the name that is due there, if one is. -/
theorem backfillNew_due {H : World L → Prop} {Q : Bool × Backfill → World L → Prop}
    {E : Halt → World L → Prop} {c : Settings} {new : List StakeAddress}
    (hread : ∀ (k : StoreCall) (g : Store → k.Result),
      (∀ s : Store, s.perform k = .ok (g s, s)) → (∀ s : Store, g s.data = g s) →
      Outcomes H (call k : Run L k.Result) (fun r w => r = g s₀ ∧ H w) E)
    (hbackfill : ∀ job, s₀.backfillJob? new = some job →
      Outcomes H (backfill c job new (s₀.cursors.get? job))
        (fun b => Q (decide (job = fullBackfillJob), b)) E)
    (hnone : s₀.backfillJob? new = none → ∀ w, H w → Q (false, {}) w) :
    Outcomes H (backfillNew c new) Q E := by
  unfold backfillNew
  apply Outcomes.bind (fullBackfill_outcome hread)
  rintro ⟨full, cursor⟩
  apply Outcomes.assuming
  dsimp only
  rintro ⟨rfl, hfull⟩
  split
  · next hyes =>
    apply Outcomes.bind (hbackfill fullBackfillJob (if_pos (hfull.mp hyes)))
    exact fun b => Outcomes.pure fun _ => id
  · next hno =>
    have hjob : s₀.backfillJob? new = if new.isEmpty then none else some incrementalBackfillJob :=
      if_neg fun h => hno (hfull.mpr h)
    split
    · next hempty => exact Outcomes.pure (hnone (hjob.trans (if_pos hempty)))
    · next hsome =>
      apply Outcomes.bind (hread (.cursor incrementalBackfillJob) _ (fun _ => rfl) fun _ => rfl)
      intro cursor
      apply Outcomes.assuming
      rintro rfl
      apply Outcomes.bind (hbackfill incrementalBackfillJob (hjob.trans (if_neg hsome)))
      exact fun b => Outcomes.pure fun _ => id

theorem backfillNew_outcome (hV : HistoriesServe V Served) (c : Settings)
    (new : List StakeAddress) :
    Outcomes (Stage mayFail V now s₀.SameData)
      (backfillNew c new : Run L (Bool × Backfill))
      (fun r w => (r.1 = decide (s₀.backfillJob? new = some fullBackfillJob) ∧
          ¬ s₀.Overflows new ∧ r.2.processed ++ r.2.skipped = new ∧
          (mayFail ∨ r.2.skipped = [])) ∧
        Stage mayFail V now (Closed Served now (s₀.backfillJob? new) s₀ r.2) w)
      (fun halt w => mayFail ∨ s₀.Overflows new ∧
        halt = .crashed (some "attempt to add with overflow") ∧ s₀.SameData w.store) := by
  apply backfillNew_due
  · exact fun k g hk hg => (stageRead hk hg).mono (fun _ => id) (fun _ _ => id) fun _ _ => Or.inl
  · intro job hjob
    have hoverflows : s₀.Overflows new ↔ s₀.backfillTotal? job new = none := by
      unfold Store.Overflows
      rw [hjob]
      simp
    rw [hoverflows, hjob]
    apply (backfill_outcome hV c job new).post
    intro b w hw
    exact ⟨⟨by simp, hw.1.1, hw.1.2⟩, hw.2⟩
  · intro hjob w hw
    obtain ⟨-, hempty⟩ := Store.backfillJob?_eq_none.mp hjob
    rw [hjob]
    refine ⟨⟨rfl, ?_, hempty.symm, .inr rfl⟩, hw.mono Backfill.closed_of_sameData⟩
    rintro ⟨job, hdue, -⟩
    rw [hjob] at hdue
    cases hdue

theorem backfilledStates_outcome (b : Backfill) :
    Outcomes (Stage mayFail V now s₀.SameData)
      (backfilledStates b : Run L (Table StakeAddress DelegationState))
      (fun found w => (∀ a, found.get? a = if a ∈ b.processed then s₀.states.get? a else none) ∧
        Stage mayFail V now s₀.SameData w) (fun _ _ => mayFail) := by
  unfold backfilledStates
  split
  · next hempty =>
    rw [List.isEmpty_iff] at hempty
    exact Outcomes.pure fun w hw => ⟨fun a => by simp [hempty], hw⟩
  · apply (stageRead (f := fun s => s.statesOf b.processed) (fun _ => rfl) fun _ => rfl).post
    rintro found w ⟨rfl, hw⟩
    exact ⟨s₀.statesOf_get? b.processed, hw⟩

end Run

namespace Store

/-- The store behind the differences that are written to it. -/
def applyDifferences (s : Store) (ds : List Difference) : Store :=
  s.applyChanges (ds.filterMap fun d => d.change) (ds.map fun d => d.state)

theorem applyDifferences_append (s : Store) (ds es : List Difference) :
    s.applyDifferences (ds ++ es) = (s.applyDifferences ds).applyDifferences es := by
  unfold applyDifferences
  rw [List.filterMap_append, List.map_append, applyChanges_append]

theorem applyDifferences_nil (s : Store) : s.applyDifferences [] = s := by
  simp [applyDifferences, applyChanges]

def newAddresses (s : Store) (observed : List (StakeAddress × Observation)) : List StakeAddress :=
  (observed.map Prod.fst).filter fun a => (s.states.get? a).isNone

theorem newAddresses_eq (s : Store) (observed : List (StakeAddress × Observation)) :
    (observed.map Prod.fst).filter
        (fun a => ((s.statesOf (observed.map Prod.fst)).get? a).isNone) =
      s.newAddresses observed := by
  apply List.filter_congr
  intro a ha
  rw [statesOf_get?, if_pos ha]

end Store

namespace Run

variable {Served : StakeAddress → List DelegationUpdate → Prop} {s₀ : Store}

/-- Differences are written as if at once, however they are cut into batches. -/
theorem writeDifferences_outcome (c : Settings) (ds : List Difference) :
    Outcomes (Stage mayFail V now s₀.SameData) (writeDifferences c ds : Run L Unit)
      (fun _ => Stage mayFail V now (s₀.applyDifferences ds).SameData) (fun _ _ => mayFail) := by
  have hbatches (batches : List (List Difference)) (s₀ : Store) :
      Outcomes (Stage mayFail V now s₀.SameData)
        (batches.forM fun batch => call (.applyChanges (batch.filterMap fun d => d.change)
          (batch.map fun d => d.state)) : Run L Unit)
        (fun _ => Stage mayFail V now (s₀.applyDifferences batches.flatten).SameData)
        (fun _ _ => mayFail) := by
    induction batches generalizing s₀ with
    | nil =>
      rw [List.flatten_nil, Store.applyDifferences_nil]
      exact Outcomes.pure fun _ => id
    | cons batch rest ih =>
      rw [List.flatten_cons, Store.applyDifferences_append]
      unfold List.forM
      apply Outcomes.bind _ fun _ => ih (s₀.applyDifferences batch)
      exact stageCall (fun _ => rfl) fun s hs =>
        congrArg (fun s : Store => s.applyDifferences batch) hs
  have hall := hbatches (batches c.writeBatchSize ds) s₀
  rw [batches_flatten] at hall
  exact hall

end Run

theorem Difference.all_congr {epoch : Epoch} {skipped : List StakeAddress}
    {observed : List (StakeAddress × Observation)}
    {stored stored' : StakeAddress → Option DelegationState}
    (h : ∀ a ∈ observed.map Prod.fst, stored a = stored' a) :
    all epoch now stored skipped observed = all epoch now stored' skipped observed := by
  unfold all
  apply List.filterMap_congr
  rintro ⟨a, o⟩ hx
  dsimp only
  rw [h a (List.mem_map_of_mem hx)]

/-- The report on a cycle that found `new` addresses without a state, did a backfill and wrote
differences. -/
def DelegationsReport.of (epoch : Epoch) (found : List Found) (new : List StakeAddress) (full : Bool)
    (b : Backfill) (ds : List Difference) : DelegationsReport where
  epoch
  observed := (Observation.latest (Observation.reports found)).length
  duplicateObservations := (Observation.reports found).length -
    (Observation.latest (Observation.reports found)).length
  newAddresses := new.length
  fullBackfill := full
  backfilled := b.processed.length
  backfillSkipped := b.skipped.length
  eventsRecorded := b.changes + ds.countP fun d => d.change.isSome
  statesRefreshed := ds.length - ds.countP fun d => d.change.isSome
  failedEntities := (Found.failures found).map fun f => (f.1, f.2.message)

/-- A store that was brought in line with observations: its new addresses were backfilled or
skipped, and behind the backfill the differences were applied. -/
structure Store.Reconciled (mayFail : Prop) (Served : StakeAddress → List DelegationUpdate → Prop)
    (now : Timestamp) (epoch : Epoch) (observed : List (StakeAddress × Observation)) (s₀ : Store)
    (b : Backfill) (s₁ s : Store) : Prop where
  counted : ¬ s₀.Overflows (s₀.newAddresses observed)
  split : b.processed ++ b.skipped = s₀.newAddresses observed
  complete : mayFail ∨ b.skipped = []
  backfilled : b.Closed Served now (s₀.backfillJob? (s₀.newAddresses observed)) s₀ s₁
  differed : (s₁.applyDifferences
    (Difference.all epoch now s₁.states.get? b.skipped observed)).SameData s

open Store (Reconciled)

namespace Run

variable {Served : StakeAddress → List DelegationUpdate → Prop} {s₀ : Store} {epoch : Epoch}

/-- The second part of a cycle brings the store in line with what was observed and reports on it; or
it halts before it writes, since its backfill has too many addresses to count. -/
theorem reconcile_outcome (hV : HistoriesServe V Served) (c : Settings) (found : List Found) :
    let observed := Observation.latest (Observation.reports found)
    let new := s₀.newAddresses observed
    Outcomes (Stage mayFail V now s₀.SameData) (reconcile c epoch found : Run L DelegationsReport)
      (fun report w => ∃ b s₁, Reconciled mayFail Served now epoch observed s₀ b s₁ w.store ∧
        report = .of epoch found new (decide (s₀.backfillJob? new = some fullBackfillJob)) b
          (Difference.all epoch now s₁.states.get? b.skipped observed))
      (fun halt w => mayFail ∨ s₀.Overflows new ∧
        halt = .crashed (some "attempt to add with overflow") ∧ s₀.SameData w.store) := by
  intro observed new
  unfold reconcile
  dsimp only
  apply Outcomes.bind ((stageRead (f := fun s => s.statesOf (observed.map Prod.fst))
    (fun _ => rfl) fun _ => rfl).mono (fun _ => id) (fun _ _ => id) fun _ _ => Or.inl)
  intro stored
  apply Outcomes.assuming
  rintro rfl
  have hstored (a : StakeAddress) (ha : a ∈ observed.map Prod.fst) :
      (s₀.statesOf (observed.map Prod.fst)).get? a = s₀.states.get? a := by
    rw [Store.statesOf_get?, if_pos ha]
  have hnew := s₀.newAddresses_eq observed
  change Outcomes _ (_ >>= _) _ _
  rw [hnew]
  apply Outcomes.bind (backfillNew_outcome hV c new)
  rintro ⟨full, b⟩
  apply Outcomes.assuming
  dsimp only
  rintro ⟨rfl, hcounted, hsplit, hcomplete⟩
  -- From here on the store behind the backfill has a name.
  intro w₁ hw₁
  have hclosed := hw₁.store
  refine (?_ : Outcomes (Stage mayFail V now w₁.store.SameData) _ _ _) w₁ (hw₁.mono fun _ => rfl)
  generalize w₁.store = s₁ at hclosed
  apply Outcomes.bind ((backfilledStates_outcome b).mono (fun _ => id) (fun _ _ => id)
    fun _ _ => Or.inl)
  intro backfilled
  apply Outcomes.assuming
  intro hfound
  apply Outcomes.getBind
  intro w₂ hw₂
  have hdifferences : Difference.all epoch w₂.now (fun a => (backfilled.get? a).or
        ((s₀.statesOf (observed.map Prod.fst)).get? a)) b.skipped observed =
      Difference.all epoch now s₁.states.get? b.skipped observed := by
    rw [hw₂.now]
    apply Difference.all_congr
    intro a ha
    rw [hfound, hstored a ha]
    by_cases hdone : a ∈ b.processed
    · have hfresh : a ∈ new := hsplit ▸ List.mem_append_left _ hdone
      have hnone : s₀.states.get? a = none := by simpa using (List.mem_filter.mp hfresh).2
      rw [if_pos hdone, hnone, Option.or_none]
    · rw [if_neg hdone, Option.none_or]
      exact (hclosed.content.get?_of_not_mem hdone).symm
  rw [hdifferences]
  apply Outcomes.bind ((writeDifferences_outcome c _).mono (fun _ => id) (fun _ _ => id)
    fun _ _ => Or.inl)
  intro _
  exact Outcomes.pure fun w hw =>
    ⟨b, s₁, ⟨hcounted, hsplit, hcomplete, hclosed, hw.store⟩, rfl⟩

end Run

end GovernanceIndex
