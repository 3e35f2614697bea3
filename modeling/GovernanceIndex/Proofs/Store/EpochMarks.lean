import GovernanceIndex.Proofs.Run.Reads
import GovernanceIndex.Proofs.Table
import GovernanceIndex.Sync.Epochs

/-!
The marks of the steps of an epoch and the rows that the steps store. A write for a step of an epoch
leaves the marks and the rows of all other steps and epochs as they are. A store is sound if the
mark of a step rests on that of the step before it, and the mark of the totals on a row.
-/
namespace GovernanceIndex

namespace EpochStep

def prev : EpochStep → Option EpochStep
  | .dreps => none
  | .totals => some .dreps
  | .delegators => some .totals

def before : EpochStep → List EpochStep
  | .dreps => []
  | .totals => [.dreps]
  | .delegators => [.dreps, .totals]

def after : EpochStep → List EpochStep
  | .dreps => [.totals, .delegators]
  | .totals => [.delegators]
  | .delegators => []

theorem all_eq (step : EpochStep) : all = step.before ++ step :: step.after := by
  cases step <;> rfl

theorem before_eq {step : EpochStep} {xs ys : List EpochStep} (h : all = xs ++ step :: ys) :
    xs = step.before := by
  rcases xs with _ | ⟨a, _ | ⟨b, _ | ⟨d, xs⟩⟩⟩ <;> simp [all] at h
  · obtain ⟨rfl, -⟩ := h
    rfl
  · obtain ⟨rfl, rfl, -⟩ := h
    rfl
  · obtain ⟨rfl, rfl, rfl, -⟩ := h
    rfl

theorem not_mem_before (step : EpochStep) : ∀ q ∈ step :: step.after, q ∉ step.before := by
  cases step <;> decide

theorem not_mem_after (step : EpochStep) : step ∉ step.after := by
  cases step <;> decide

end EpochStep

/-- The rows that a step of an epoch stores. -/
inductive StepRows where
  | delegates (rows : List DelegateSnapshot)
  | totals (row : Option EpochTotals)
  | summaries (rows : List DelegatorSummary)
  deriving DecidableEq, Repr

namespace Store

def syncedAt (s : Store) (e : Epoch) (step : EpochStep) : Option Timestamp :=
  (s.checkpoints.get? e).bind fun p => p.syncedAt step

/-- The rows that the store has from a step of an epoch. -/
def stepRows (s : Store) (e : Epoch) : EpochStep → StepRows
  | .dreps => .delegates (s.snapshotsOf e)
  | .totals => .totals (s.totals.get? e)
  | .delegators => .summaries (s.summariesOf e)

theorem markStep_syncedAt (s : Store) (e e' : Epoch) (step q : EpochStep) (now : Timestamp) :
    (s.markStep e step now).syncedAt e' q =
      if e' = e ∧ q = step then (s.syncedAt e step).or (some now) else s.syncedAt e' q := by
  unfold syncedAt markStep
  rw [Table.get?_insert]
  by_cases he : e' = e
  · subst he
    rw [if_pos rfl]
    rcases s.checkpoints.get? e' with _ | p <;> cases step <;> cases q <;>
      simp [EpochCheckpoint.mark, EpochCheckpoint.syncedAt]
  · simp [he]

theorem ofEpoch_foldl_insert {α ν : Type} (f : α → (Epoch × DelegateId) × ν) (xs : List α)
    (t : Table (Epoch × DelegateId) ν) {e : Epoch} (h : ∀ x ∈ xs, (f x).1.1 ≠ e) :
    ofEpoch (xs.foldl (fun t x => t.insert (f x).1 (f x).2) t) e = ofEpoch t e := by
  induction xs generalizing t with
  | nil => rfl
  | cons x xs ih =>
    obtain ⟨hx, hxs⟩ := List.forall_mem_cons.mp h
    rw [List.foldl_cons, ih _ hxs]
    unfold ofEpoch Table.insert
    rw [Table.filter_put_of_neg (fun v => by simpa using hx)]

/-- Only the marks and the rows of some steps of some epochs differ. -/
def DifferIn (T : Epoch → EpochStep → Prop) (s s' : Store) : Prop :=
  ∀ e step, ¬ T e step →
    s'.syncedAt e step = s.syncedAt e step ∧ s'.stepRows e step = s.stepRows e step

instance (T : Epoch → EpochStep → Prop) : IsPreorder Store (DifferIn T) where
  refl _ _ _ _ := ⟨rfl, rfl⟩
  trans _ _ _ h h' e step hT :=
    ⟨(h' e step hT).1.trans (h e step hT).1, (h' e step hT).2.trans (h e step hT).2⟩

theorem DifferIn.mono {T T' : Epoch → EpochStep → Prop} {s s' : Store} (h : DifferIn T s s')
    (hT : ∀ e step, T e step → T' e step) : DifferIn T' s s' :=
  fun e step hnot => h e step fun hmem => hnot (hT e step hmem)

theorem stepRows_of_sameData {s s' : Store} (h : SameData s s') (e : Epoch) (step : EpochStep) :
    s'.stepRows e step = s.stepRows e step :=
  h.eq (fun s => s.stepRows e step) fun s => by cases step <;> rfl

theorem differIn_of_sameData {T : Epoch → EpochStep → Prop} {s s' : Store} (h : SameData s s') :
    DifferIn T s s' :=
  fun e step _ => ⟨h.eq fun s => s.syncedAt e step, stepRows_of_sameData h e step⟩

/-- From a step of an epoch on the marks are the same, and behind it the rows are. -/
structure SameFrom (e : Epoch) (step : EpochStep) (s s' : Store) : Prop where
  marks : ∀ q ∈ step :: step.after, s'.syncedAt e q = s.syncedAt e q
  rows : ∀ q ∈ step.after, s'.stepRows e q = s.stepRows e q

namespace SameFrom

variable {e : Epoch} {step : EpochStep} {s s' : Store}

theorem trans {s'' : Store} (h : SameFrom e step s s') (h' : SameFrom e step s' s'') :
    SameFrom e step s s'' :=
  ⟨fun q hq => (h'.marks q hq).trans (h.marks q hq),
    fun q hq => (h'.rows q hq).trans (h.rows q hq)⟩

theorem of_differIn {T : Epoch → EpochStep → Prop} (h : DifferIn T s s')
    (hT : ∀ q ∈ step :: step.after, ¬ T e q) : SameFrom e step s s' :=
  ⟨fun q hq => (h e q (hT q hq)).1,
    fun q hq => (h e q (hT q (List.mem_cons_of_mem step hq))).2⟩

end SameFrom

/-- Marks and rows of totals stay once they are there. -/
structure Grows (s s' : Store) : Prop where
  marks : ∀ e step t, s.syncedAt e step = some t → s'.syncedAt e step = some t
  totals : ∀ e, (s.totals.get? e).isSome → (s'.totals.get? e).isSome

theorem grows_of_sameData {s s' : Store} (h : SameData s s') : Grows s s' := by
  refine ⟨fun e step t ht => ?_, fun e he => ?_⟩
  · rw [h.eq fun s => s.syncedAt e step]
    exact ht
  · rw [h.eq fun s => s.totals]
    exact he

instance : IsPreorder Store Grows where
  refl _ := ⟨fun _ _ _ => id, fun _ => id⟩
  trans _ _ _ h h' := ⟨fun e step t ht => h'.marks e step t (h.marks e step t ht),
    fun e he => h'.totals e (h.totals e he)⟩

/-- What the work of a step of an epoch may do: it marks nothing, and stores rows of that step and
epoch only. -/
structure Works (e : Epoch) (step : EpochStep) (s s' : Store) : Prop where
  marks : s'.checkpoints = s.checkpoints
  totals : ∀ e, (s.totals.get? e).isSome → (s'.totals.get? e).isSome
  rows : ∀ e' q, ¬ (e' = e ∧ q = step) → s'.stepRows e' q = s.stepRows e' q

namespace Works

variable {e : Epoch} {step : EpochStep} {s s' : Store}

instance : IsPreorder Store (Works e step) where
  refl _ := ⟨rfl, fun _ => id, fun _ _ _ => rfl⟩
  trans _ _ _ h h' := ⟨h'.marks.trans h.marks, fun e he => h'.totals e (h.totals e he),
    fun e q hq => (h'.rows e q hq).trans (h.rows e q hq)⟩

theorem syncedAt (h : Works e step s s') (e' : Epoch) (q : EpochStep) :
    s'.syncedAt e' q = s.syncedAt e' q := by
  unfold Store.syncedAt
  rw [h.marks]

theorem differIn (h : Works e step s s') : DifferIn (fun e' q => e' = e ∧ q = step) s s' :=
  fun e' q hq => ⟨h.syncedAt e' q, h.rows e' q hq⟩

theorem grows (h : Works e step s s') : Grows s s' :=
  ⟨fun e' q _ ht => (h.syncedAt e' q).trans ht, h.totals⟩

theorem of_sameData (h : SameData s s') : Works e step s s' :=
  ⟨h.eq fun s => s.checkpoints, (grows_of_sameData h).totals,
    fun e' q _ => stepRows_of_sameData h e' q⟩

theorem sameFrom (h : Works e step s s') : SameFrom e step s s' :=
  ⟨fun q _ => h.syncedAt e q,
    fun q hq => h.rows e q fun heq => step.not_mem_after (heq.2 ▸ hq)⟩

theorem putSnapshots (s : Store) {rows : List DelegateSnapshot} (h : ∀ r ∈ rows, r.epoch = e) :
    Works e .dreps s (s.putSnapshots rows) := by
  refine ⟨rfl, fun _ => id, fun e' q hq => ?_⟩
  cases q with
  | dreps =>
    have hne : e' ≠ e := fun he => hq ⟨he, rfl⟩
    have hrows := ofEpoch_foldl_insert (fun r : DelegateSnapshot => ((r.epoch, r.delegate), r)) rows
      s.snapshots (e := e') fun r hr => h r hr ▸ hne.symm
    exact congrArg StepRows.delegates hrows
  | totals => rfl
  | delegators => rfl

theorem putTotals (s : Store) {row : EpochTotals} (h : row.epoch = e) :
    Works e .totals s (s.putTotals row) := by
  subst h
  refine ⟨rfl, fun e' he' => ?_, fun e' q hq => ?_⟩
  · unfold Store.putTotals
    rw [Table.get?_insert]
    split
    · rfl
    · exact he'
  · cases q with
    | dreps => rfl
    | totals =>
      have hne : e' ≠ row.epoch := fun he => hq ⟨he, rfl⟩
      unfold stepRows Store.putTotals
      rw [Table.get?_insert, if_neg hne]
    | delegators => rfl

theorem putSummaries (s : Store) {rows : List DelegatorSummary} (h : ∀ r ∈ rows, r.epoch = e) :
    Works e .delegators s (s.putSummaries rows) := by
  refine ⟨rfl, fun _ => id, fun e' q hq => ?_⟩
  cases q with
  | dreps => rfl
  | totals => rfl
  | delegators =>
    have hne : e' ≠ e := fun he => hq ⟨he, rfl⟩
    have hrows := ofEpoch_foldl_insert (fun r : DelegatorSummary => ((r.epoch, r.delegate), r)) rows
      s.summaries (e := e') fun r hr => h r hr ▸ hne.symm
    exact congrArg StepRows.summaries hrows

end Works

variable {s s' : Store} {e : Epoch} {step : EpochStep}

theorem markStep_differIn (s : Store) (e : Epoch) (step : EpochStep) (now : Timestamp) :
    DifferIn (fun e' q => e' = e ∧ q = step) s (s.markStep e step now) := by
  intro e' q hq
  rw [markStep_syncedAt, if_neg hq]
  exact ⟨rfl, by cases q <;> rfl⟩

theorem markStep_grows (s : Store) (e : Epoch) (step : EpochStep) (now : Timestamp) :
    Grows s (s.markStep e step now) := by
  refine ⟨fun e' q _ ht => ?_, fun _ => id⟩
  rw [markStep_syncedAt]
  split
  · next h =>
    obtain ⟨rfl, rfl⟩ := h
    rw [ht]
    rfl
  · exact ht

/-- What the mark of a step rests on. -/
structure Founded (s : Store) (e : Epoch) (step : EpochStep) : Prop where
  prev : ∀ q ∈ step.prev, (s.syncedAt e q).isSome
  row : step = .totals → (s.totals.get? e).isSome

/-- Every mark rests on what it is to rest on. -/
def Sound (s : Store) : Prop := ∀ e step, (s.syncedAt e step).isSome → s.Founded e step

theorem Grows.isSome (h : Grows s s') (hs : (s.syncedAt e step).isSome) :
    (s'.syncedAt e step).isSome := by
  obtain ⟨t, ht⟩ := Option.isSome_iff_exists.mp hs
  rw [h.marks e step t ht]
  rfl

/-- A step of an epoch is marked if it is wanted. -/
def Marked (c : Settings) (s : Store) (e : Epoch) (step : EpochStep) : Prop :=
  (step = .delegators → c.includeDelegators) → (s.syncedAt e step).isSome

theorem Grows.marked {c : Settings} (h : Grows s s') (hs : s.Marked c e step) :
    s'.Marked c e step := fun hwanted => h.isSome (hs hwanted)

theorem Founded.grows (hf : s.Founded e step) (h : Grows s s') : s'.Founded e step :=
  ⟨fun q hq => h.isSome (hf.prev q hq), fun hstep => h.totals e (hf.row hstep)⟩

theorem Sound.works (hs : s.Sound) (h : Works e step s s') : s'.Sound := by
  intro e' q hq
  rw [h.syncedAt] at hq
  exact (hs e' q hq).grows h.grows

theorem Sound.sameData (hs : s.Sound) (h : SameData s s') : s'.Sound := by
  intro e' q hq
  have hworks : Works e' q s s' := Works.of_sameData h
  exact hs.works hworks e' q hq

theorem Sound.markStep (hs : s.Sound) (hf : s.Founded e step) (now : Timestamp) :
    (s.markStep e step now).Sound := by
  intro e' q hq
  have hgrows := s.markStep_grows e step now
  rw [markStep_syncedAt] at hq
  split at hq
  · next h =>
    obtain ⟨rfl, rfl⟩ := h
    exact hf.grows hgrows
  · exact (hs e' q hq).grows hgrows

end Store

end GovernanceIndex
