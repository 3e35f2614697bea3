import GovernanceIndex.Ledger.Scripted
import GovernanceIndex.Proofs.Sync.EpochSteps
import GovernanceIndex.Proofs.Sync.Frames
import Mathlib.Data.List.Nodup

/-!
Runs of the epoch sync: calls for one epoch and calls for all incomplete ones, one after the other.
Marks stay, every store that is reached is sound, and a call that halts in a step of an epoch leaves
the marks from that step on, and the rows of the steps behind it, as they were before the call.
-/
namespace GovernanceIndex

open Store (Grows DifferIn Sound)

theorem Epoch.range_nodup (first last : Epoch) : (range first last).Nodup := by
  unfold range
  apply List.Nodup.map_on _ (List.nodup_range' 1)
  intro m hm n hn heq
  have hlast : last.toNat < 4294967296 := last.number.toNat_lt
  simp only [List.mem_range'_1] at hm hn
  have hmod : m % 4294967296 = n % 4294967296 := by
    simpa using congrArg (fun e : Epoch => e.number.toNat) heq
  omega

theorem EpochPlan.chosen_sublist (epochs : List Epoch) (isComplete : Epoch → Bool)
    (bound : Option Nat) : (make epochs isComplete bound).chosen.Sublist epochs := by
  unfold make
  rcases bound with _ | n
  · exact List.filter_sublist
  · exact (List.take_sublist _ _).trans List.filter_sublist

namespace Run

variable {L : Type} [LedgerService L]

theorem planEpochs_nodup (c : Settings) :
    Returns (fun r => r.2.Nodup) (planEpochs c : Run L (EpochsReport × List Epoch)) := by
  apply Returns.bind
  intro tip
  split
  · exact Returns.pure List.nodup_nil
  · next last _ =>
    split
    · exact Returns.pure List.nodup_nil
    · apply Returns.bind
      intro checkpoints
      exact Returns.pure ((EpochPlan.chosen_sublist _ _ _).nodup (Epoch.range_nodup _ last))

theorem Passes.planEpochs (c : Settings) :
    Passes (Run.planEpochs c : Run L (EpochsReport × List Epoch)) := by
  apply Shifts.bind (Passes.knownTip c)
  intro tip
  split
  · exact Shifts.pure _
  · split
    · exact Shifts.pure _
    · exact Shifts.bind (Passes.call rfl) fun _ => Shifts.pure _

theorem Reads.planEpochs (c : Settings) :
    Reads (Run.planEpochs c : Run L (EpochsReport × List Epoch)) := (Passes.planEpochs c).reads

variable {R : Store → Store → Prop} [IsPreorder Store R]

theorem syncEach_moves (c : Settings) (report : EpochsReport) (epochs : List Epoch)
    (h : ∀ e ∈ epochs, Moves R (syncEpoch c e : Run L EpochReport)) :
    Moves R (syncEach c report epochs : Run L EpochsReport) := shiftEach c report epochs h

theorem syncEach_differIn (c : Settings) (report : EpochsReport) (epochs : List Epoch) :
    Moves (DifferIn fun e _ => e ∈ epochs) (syncEach c report epochs : Run L EpochsReport) := by
  apply syncEach_moves
  intro e he
  exact (syncEpoch_differIn c e).mono fun _ _ h => h.mono fun _ _ heq => heq ▸ he

theorem syncEach_sound (c : Settings) (report : EpochsReport) (epochs : List Epoch) :
    Ensures Sound (syncEach c report epochs : Run L EpochsReport) (fun _ => Sound) Sound := by
  induction epochs generalizing report with
  | nil => exact Ensures.pure fun _ => id
  | cons e rest ih =>
    apply Ensures.bind (syncEpoch_sound c e).attempt
    intro r
    split <;> exact ih _

theorem syncEpochs_grows (c : Settings) : Moves Grows (syncEpochs c : Run L EpochsReport) :=
  Moves.bind (Reads.planEpochs c).grows fun r => syncEach_moves c r.1 r.2 fun e _ =>
    syncEpoch_grows c e

theorem syncEpochs_sound (c : Settings) :
    Ensures Sound (syncEpochs c : Run L EpochsReport) (fun _ => Sound) Sound :=
  Ensures.bind ((Reads.planEpochs c).ensures fun _ _ h hs => hs.sameData h) fun r =>
    syncEach_sound c r.1 r.2

section

variable {c : Settings} {report : EpochsReport} {epoch : Epoch} {step : EpochStep}
  {w w' : World L}

theorem syncEach_append {report' : EpochsReport} {before : List Epoch}
    (h : syncEach c report before w = (.ok report', w')) (rest : List Epoch) :
    syncEach c report (before ++ rest) w = syncEach c report' rest w' := by
  induction before generalizing report w with
  | nil =>
    cases h
    rfl
  | cons e others ih =>
    unfold syncEach at h
    rw [bind_apply] at h
    rcases hfirst : attempt (syncEpoch c e) w with ⟨_ | r, v⟩ <;> rw [hfirst] at h
    · cases h
    · rw [List.cons_append, syncEach, bind_apply_of_ok hfirst]
      rcases r with cause | r <;> exact ih h

/-- Behind an epoch whose sync halted, only epochs that come later are touched. -/
theorem syncEach_differIn_of_halt {halt : Halt} (h : syncEpoch c epoch w = (.error halt, w'))
    (report : EpochsReport) (rest : List Epoch) :
    DifferIn (fun e _ => e ∈ rest) w'.store (syncEach c report (epoch :: rest) w).2.store := by
  have hattempt := attempt_apply (syncEpoch c epoch) w
  rw [h] at hattempt
  unfold syncEach
  rw [bind_apply, hattempt]
  rcases halt with cause | text | _
  · exact syncEach_differIn c _ rest w'
  · exact refl_of (DifferIn _) w'.store
  · exact refl_of (DifferIn _) w'.store

/-- A sync of the incomplete epochs comes to an epoch whose sync halts in a step. -/
def BackfillHaltsIn (c : Settings) (epoch : Epoch) (step : EpochStep) (w : World L) : Prop :=
  ∃ report before after w₁ report' w₂,
    planEpochs c w = (.ok (report, before ++ epoch :: after), w₁) ∧
    syncEach c report before w₁ = (.ok report', w₂) ∧ HaltsIn c epoch step w₂

theorem BackfillHaltsIn.sameFrom (h : BackfillHaltsIn c epoch step w) :
    w.store.SameFrom epoch step (syncEpochs c w).2.store := by
  obtain ⟨report, before, after, w₁, report', w₂, hplan, hbefore, hhalts⟩ := h
  obtain ⟨halt, w₃, hsync, hsame⟩ := hhalts.sameFrom
  -- An epoch is planned once, so neither the epochs before it nor those behind it touch it.
  have hnodup := planEpochs_nodup c w _ w₁ hplan
  obtain ⟨-, hrest, hdisjoint⟩ := List.nodup_append.mp hnodup
  obtain ⟨hafter, -⟩ := List.nodup_cons.mp hrest
  have hnot : epoch ∉ before := fun hmem => hdisjoint epoch hmem epoch List.mem_cons_self rfl
  have hread : w.store.SameFrom epoch step w₁.store := by
    have hmoves := (Reads.planEpochs c).differIn (fun _ _ => False) w
    rw [hplan] at hmoves
    exact Store.SameFrom.of_differIn hmoves fun _ _ => id
  have hran : w₁.store.SameFrom epoch step w₂.store := by
    have hmoves := syncEach_differIn c report before w₁
    rw [hbefore] at hmoves
    exact Store.SameFrom.of_differIn hmoves fun _ _ => hnot
  have hlater := syncEach_differIn_of_halt hsync report' after
  have hend : (syncEpochs c w).2.store =
      (syncEach c report' (epoch :: after) w₂).2.store := by
    unfold syncEpochs
    rw [bind_apply_of_ok hplan]
    dsimp only
    rw [syncEach_append hbefore]
  rw [hend]
  exact ((hread.trans hran).trans hsame).trans
    (Store.SameFrom.of_differIn hlater fun _ _ => hafter)

end

end Run

/-- What a call of the epoch sync is for. -/
inductive EpochTask where
  | one (epoch : Epoch)
  | incomplete
  deriving DecidableEq, Repr

/-- A call of the epoch sync: what it is for, its settings, and the world apart from the store that
its worker meets. -/
structure EpochCall (L : Type) where
  task : EpochTask
  settings : Settings
  world : World L

namespace EpochCall

variable {L : Type} [LedgerService L]

def run (k : EpochCall L) (s : Store) : Store :=
  match k.task with
  | .one epoch => (Run.syncEpoch k.settings epoch).storeAfter k.world s
  | .incomplete => (Run.syncEpochs k.settings).storeAfter k.world s

def runAll (ks : List (EpochCall L)) (s : Store) : Store := ks.foldl (fun s k => k.run s) s

/-- A call halts in a step of an epoch, or the sync of the epoch that is part of it does. -/
def HaltsIn (k : EpochCall L) (s : Store) (epoch : Epoch) (step : EpochStep) : Prop :=
  match k.task with
  | .one e => e = epoch ∧ Run.HaltsIn k.settings epoch step (k.world.withStore s)
  | .incomplete => Run.BackfillHaltsIn k.settings epoch step (k.world.withStore s)

variable {s : Store}

theorem run_sound (k : EpochCall L) (h : s.Sound) : (k.run s).Sound := by
  unfold run
  split
  · exact (Run.syncEpoch_sound _ _).storeAfter _ h
  · exact (Run.syncEpochs_sound _).storeAfter _ h

theorem run_grows (k : EpochCall L) (s : Store) : Grows s (k.run s) := by
  unfold run
  split
  · exact (Run.syncEpoch_grows _ _).storeAfter _ s
  · exact (Run.syncEpochs_grows _).storeAfter _ s

theorem runAll_sound (ks : List (EpochCall L)) (h : s.Sound) : (runAll ks s).Sound := by
  induction ks generalizing s with
  | nil => exact h
  | cons k ks ih => exact ih (k.run_sound h)

theorem runAll_grows (ks : List (EpochCall L)) (s : Store) : Grows s (runAll ks s) := by
  induction ks generalizing s with
  | nil => exact refl_of Grows s
  | cons k ks ih => exact trans_of Grows (k.run_grows s) (ih (k.run s))

theorem HaltsIn.sameFrom {k : EpochCall L} {epoch : Epoch} {step : EpochStep}
    (h : k.HaltsIn s epoch step) : s.SameFrom epoch step (k.run s) := by
  obtain ⟨task, c, w⟩ := k
  cases task with
  | one e =>
    obtain ⟨rfl, hhalts⟩ := h
    obtain ⟨halt, w', hsync, hsame⟩ := hhalts.sameFrom
    change s.SameFrom e step (Run.syncEpoch c e (w.withStore s)).2.store
    rw [hsync]
    exact hsame
  | incomplete => exact Run.BackfillHaltsIn.sameFrom h

/-- Along any calls marks stay with their times, the marks of an epoch are those of the first steps,
and the mark of the totals comes with a row. A call that halts in a step of an epoch leaves the
marks from that step on, and the rows of the steps behind it, as they were; and if a call for one
epoch halts, it changed no data or halts in one of its steps. -/
theorem checkpoints_sound (ks later : List (EpochCall L)) (k : EpochCall L) (e : Epoch) :
    let s := runAll ks {}
    (∀ step t, s.syncedAt e step = some t → (runAll later s).syncedAt e step = some t) ∧
    ((s.syncedAt e .totals).isSome → (s.syncedAt e .dreps).isSome) ∧
    ((s.syncedAt e .delegators).isSome → (s.syncedAt e .totals).isSome) ∧
    ((s.syncedAt e .totals).isSome → (s.totals.get? e).isSome) ∧
    (∀ step, k.HaltsIn s e step →
      (∀ q ∈ step :: step.after, (k.run s).syncedAt e q = s.syncedAt e q) ∧
      ∀ q ∈ step.after, (k.run s).stepRows e q = s.stepRows e q) ∧
    ∀ halt w', k.task = .one e →
      Run.syncEpoch k.settings e (k.world.withStore s) = (.error halt, w') →
      s.SameData w'.store ∨ ∃ step, k.HaltsIn s e step := by
  intro s
  have hsound : s.Sound := runAll_sound ks fun _ step h => by cases step <;> cases h
  refine ⟨(runAll_grows later s).marks e, ?_, ?_, ?_, ?_, ?_⟩
  · intro h
    exact (hsound e .totals h).prev .dreps rfl
  · intro h
    exact (hsound e .delegators h).prev .totals rfl
  · intro h
    exact (hsound e .totals h).row rfl
  · intro step h
    exact ⟨h.sameFrom.marks, h.sameFrom.rows⟩
  · intro halt w' htask h
    rcases Run.exists_haltsIn h with hread | ⟨step, hhalts⟩
    · left
      have hmoves := Run.Reads.checkpoint e (k.world.withStore s)
      rw [hread] at hmoves
      exact hmoves.data
    · right
      refine ⟨step, ?_⟩
      unfold HaltsIn
      rw [htask]
      exact ⟨rfl, hhalts⟩

/-- A sync of an epoch in which the third request is refused. -/
def interrupted : EpochCall ScriptedLedger where
  task := .one ⟨7⟩
  settings := {}
  world :=
    { ledger := ⟨[none, none, some (.client 404 "")]⟩
      worker := { id := ⟨"w", by decide⟩ }
      now := ⟨5, 0⟩ }

/-- A later sync of the epoch, with the delegators and without a failure. -/
def resumed : EpochCall ScriptedLedger where
  task := .one ⟨7⟩
  settings := { includeDelegators := true }
  world := { interrupted.world with ledger := ⟨[]⟩, now := ⟨9, 0⟩ }

/-- A second sync that is interrupted in the totals marks nothing, and a later one keeps the mark of
the first and sets the others. -/
theorem checkpoints_sound_resumed :
    let s := runAll [interrupted] {}
    let s' := runAll [interrupted, resumed] {}
    interrupted.HaltsIn s ⟨7⟩ .totals ∧
      (interrupted.run s).syncedAt ⟨7⟩ .totals = s.syncedAt ⟨7⟩ .totals ∧
      (runAll [resumed] s).syncedAt ⟨7⟩ .dreps = some ⟨5, 0⟩ ∧
      s'.syncedAt ⟨7⟩ .delegators = some ⟨9, 0⟩ ∧ (s'.syncedAt ⟨7⟩ .totals).isSome ∧
      (s'.totals.get? ⟨7⟩).isSome := by
  intro s s'
  have hhalts : interrupted.HaltsIn s ⟨7⟩ .totals := ⟨rfl, by decide +kernel⟩
  have hdreps : (runAll [interrupted] {}).syncedAt ⟨7⟩ .dreps = some ⟨5, 0⟩ := by decide +kernel
  have hdelegators : (runAll [interrupted, resumed] {}).syncedAt ⟨7⟩ .delegators =
      some ⟨9, 0⟩ := by decide +kernel
  obtain ⟨hkept, -, -, -, hhalt, -⟩ := checkpoints_sound [interrupted] [resumed] interrupted ⟨7⟩
  obtain ⟨-, -, htotals, hrow, -⟩ := checkpoints_sound [interrupted, resumed] [] interrupted ⟨7⟩
  have hmarked := htotals (by rw [hdelegators]; rfl)
  obtain ⟨hunmarked, -⟩ := hhalt .totals hhalts
  exact ⟨hhalts, hunmarked .totals List.mem_cons_self, hkept .dreps ⟨5, 0⟩ hdreps, hdelegators,
    hmarked, hrow hmarked⟩

end EpochCall

end GovernanceIndex
