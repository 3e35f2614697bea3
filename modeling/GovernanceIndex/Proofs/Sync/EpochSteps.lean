import GovernanceIndex.Proofs.Store.EpochMarks
import GovernanceIndex.Proofs.Sync.InventoryMerge
import Mathlib.Data.List.Chain

/-!
The steps of syncing an epoch. Each does its work and marks itself behind it, so that a sync leaves
a sound store wherever it halts, and one that halts in a step leaves the mark of that step and all
that belongs to the steps after it as it was.
-/
namespace GovernanceIndex

open Store (Works Grows DifferIn Founded Sound)

namespace Run

variable {L α : Type} [LedgerService L] {epoch : Epoch} {step : EpochStep}

theorem Reads.works {m : Run L α} (h : Reads m) : Moves (Works epoch step) m :=
  h.moves fun _ _ => Works.of_sameData

theorem Reads.differIn {m : Run L α} (h : Reads m) (T : Epoch → EpochStep → Prop) :
    Moves (DifferIn T) m :=
  h.moves fun _ _ => Store.differIn_of_sameData

theorem Reads.grows {m : Run L α} (h : Reads m) : Moves Grows m :=
  h.moves fun _ _ => Store.grows_of_sameData

theorem Reads.checkpoint (epoch : Epoch) : Reads (Run.checkpoint epoch : Run L EpochCheckpoint) :=
  Shifts.bind (Passes.call rfl).reads fun _ => Shifts.pure _

theorem fetchInventory_epoch (c : Settings) (epoch : Epoch) :
    Returns (fun rows => ∀ r ∈ rows, r.epoch = epoch)
      (fetchInventory c epoch : Run L (List DelegateSnapshot)) :=
  Returns.bind fun f => Returns.pure (Inventory.merge_epoch epoch f.listed f.infos f.powers)

theorem stepWork_works (c : Settings) (epoch : Epoch) (step : EpochStep) :
    Moves (Works epoch step) (stepWork c epoch step : Run L Nat) := by
  cases step with
  | dreps =>
    apply Moves.bindReturned (Passes.fetchInventory c epoch).reads.works (fetchInventory_epoch c epoch)
    intro rows hrows
    apply Moves.bind
    · exact Moves.callTo (fun _ => rfl) fun s => Works.putSnapshots s hrows
    · intro _
      exact Moves.bind (Reads.rememberInventory epoch rows).works fun _ => Moves.pure _
  | totals =>
    refine Moves.bind ?_ fun _ => Moves.pure _
    apply Moves.bind (Passes.request c _).reads.works
    intro supply
    apply Moves.bind (Passes.request c _).reads.works
    intro delegated
    apply Moves.bind (Passes.listing c _).reads.works
    intro pools
    exact Moves.callTo (fun _ => rfl) fun s => Works.putTotals s rfl
  | delegators =>
    apply Moves.bind (Reads.inventory c epoch).works
    intro rows
    apply Moves.bind (Passes.lookup c _ _ _).reads.works
    intro found
    apply Moves.bind
    · refine Moves.callTo (fun _ => rfl) fun s => ?_
      apply Works.putSummaries
      intro summary hmem
      obtain ⟨x, -, rfl⟩ := List.mem_map.mp hmem
      rfl
    · intro _
      dsimp only
      split
      · exact Moves.bind (Moves.throw _) fun _ => Moves.pure _
      · exact Moves.pure _

theorem stepWork_row (c : Settings) (epoch : Epoch) (step : EpochStep) :
    Ensures (fun _ => True) (stepWork c epoch step : Run L Nat)
      (fun _ s => step = .totals → (s.totals.get? epoch).isSome) (fun _ => True) := by
  have hreads {α : Type} {m : Run L α} (h : Reads m) :
      Ensures (fun _ => True) m (fun _ _ => True) (fun _ => True) :=
    h.ensures fun _ _ _ => id
  cases step with
  | totals =>
    refine Ensures.bind (Q := fun _ s => (s.totals.get? epoch).isSome) ?_
      fun _ => Ensures.pure fun _ hs _ => hs
    apply Ensures.bind (hreads (Passes.request c _).reads)
    intro supply
    apply Ensures.bind (hreads (Passes.request c _).reads)
    intro delegated
    apply Ensures.bind (hreads (Passes.listing c _).reads)
    intro pools
    apply Ensures.callTo fun _ => rfl
    · intro s _
      dsimp only
      unfold Store.putTotals
      rw [Table.get?_insert, if_pos rfl]
      rfl
    · exact fun _ => id
  | dreps =>
    have hworks := stepWork_works (L := L) c epoch .dreps
    exact (hworks.ensures fun _ _ _ => id).post fun _ _ _ h => EpochStep.noConfusion h
  | delegators =>
    have hworks := stepWork_works (L := L) c epoch .delegators
    exact (hworks.ensures fun _ _ _ => id).post fun _ _ _ h => EpochStep.noConfusion h

/-- What a step does: it marks itself behind its work if it is wanted, and one that halts has not
marked itself. -/
theorem runStep_ensures (c : Settings) (epoch : Epoch) (p : EpochCheckpoint) (step : EpochStep)
    (s₀ : Store) :
    Ensures (fun s => s = s₀) (runStep c epoch p step : Run L (Option (EpochStep × Nat)))
      (fun _ s => c.wants p step = false ∧ s = s₀ ∨
        ∃ s₁ now, Works epoch step s₀ s₁ ∧ (step = .totals → (s₁.totals.get? epoch).isSome) ∧
          s = s₁.markStep epoch step now)
      (Works epoch step s₀) := by
  unfold runStep
  split
  · have hworks := (stepWork_works (L := L) c epoch step).relates s₀
    have hrow : Ensures (fun s => s = s₀) (stepWork c epoch step : Run L Nat)
        (fun _ s => step = .totals → (s.totals.get? epoch).isSome) (fun _ => True) :=
      (stepWork_row c epoch step).pre fun _ _ => trivial
    apply Ensures.bind ((hworks.and hrow).mono (fun _ => id) (fun _ _ => id) fun _ h => h.1)
    intro rows
    apply Ensures.getBind
    intro w
    apply Ensures.bind (Q := fun _ s => ∃ s₁ now, Works epoch step s₀ s₁ ∧
      (step = .totals → (s₁.totals.get? epoch).isSome) ∧ s = s₁.markStep epoch step now)
    · apply Ensures.callTo fun _ => rfl
      · exact fun s hs => ⟨s, w.now, hs.1, hs.2, rfl⟩
      · exact fun s hs => hs.1
    · intro _
      exact Ensures.pure fun s hs => .inr hs
  · next hwants =>
    exact Ensures.pure fun s hs => .inl ⟨Bool.eq_false_iff.mpr hwants, hs⟩

variable {R : Store → Store → Prop} [IsPreorder Store R]

theorem runStep_moves (c : Settings) (p : EpochCheckpoint)
    (hworks : ∀ s s', Works epoch step s s' → R s s')
    (hmark : ∀ s now, R s (s.markStep epoch step now)) :
    Moves R (runStep c epoch p step : Run L (Option (EpochStep × Nat))) := by
  intro w
  have hstep := runStep_ensures (L := L) c epoch p step w.store w rfl
  rcases hr : (runStep c epoch p step : Run L _) w with ⟨halt | ran, w'⟩ <;> rw [hr] at hstep
  · exact hworks _ _ hstep
  · change R w.store w'.store
    obtain ⟨-, hsame⟩ | ⟨s₁, now, hwork, -, hmarked⟩ := hstep
    · rw [hsame]
      exact refl_of R w.store
    · rw [hmarked]
      exact trans_of R (hworks _ _ hwork) (hmark s₁ now)

theorem runSteps_moves (c : Settings) (p : EpochCheckpoint) (steps : List EpochStep)
    (hworks : ∀ step ∈ steps, ∀ s s', Works epoch step s s' → R s s')
    (hmark : ∀ step ∈ steps, ∀ s now, R s (s.markStep epoch step now)) :
    Moves R (runSteps c epoch p steps : Run L (List (EpochStep × Nat))) := by
  induction steps with
  | nil => exact Moves.pure _
  | cons step rest ih =>
    obtain ⟨hwork, hworks⟩ := List.forall_mem_cons.mp hworks
    obtain ⟨hstep, hmark⟩ := List.forall_mem_cons.mp hmark
    exact Moves.bind (runStep_moves c p hwork hstep) fun _ =>
      Moves.bind (ih hworks hmark) fun _ => Moves.pure _

theorem runSteps_differIn (c : Settings) (epoch : Epoch) (p : EpochCheckpoint)
    (steps : List EpochStep) :
    Moves (DifferIn fun e q => e = epoch ∧ q ∈ steps)
      (runSteps c epoch p steps : Run L (List (EpochStep × Nat))) := by
  have hone (step : EpochStep) (hstep : step ∈ steps) (e : Epoch) (q : EpochStep)
      (h : e = epoch ∧ q = step) : e = epoch ∧ q ∈ steps := ⟨h.1, h.2 ▸ hstep⟩
  apply runSteps_moves
  · exact fun step hstep s s' hwork => hwork.differIn.mono (hone step hstep)
  · exact fun step hstep s now => (s.markStep_differIn epoch step now).mono (hone step hstep)

theorem runSteps_grows (c : Settings) (epoch : Epoch) (p : EpochCheckpoint)
    (steps : List EpochStep) :
    Moves Grows (runSteps c epoch p steps : Run L (List (EpochStep × Nat))) :=
  runSteps_moves c p steps (fun _ _ _ _ hwork => hwork.grows)
    fun step _ s now => s.markStep_grows epoch step now

/-- The marks of a checkpoint that was read are in the store. -/
def Noted (p : EpochCheckpoint) (epoch : Epoch) (s : Store) : Prop :=
  ∀ q, p.isDone q → (s.syncedAt epoch q).isSome

omit [LedgerService L] in
theorem checkpoint_cases (epoch : Epoch) (w : World L) :
    let w' := (w.call (.checkpoint epoch)).2
    (∃ p, checkpoint epoch w = (.ok p, w') ∧
        ∀ step, p.isDone step = (w.store.syncedAt epoch step).isSome) ∨
      ∃ halt, checkpoint epoch w = (.error halt, w') := by
  intro w'
  unfold checkpoint
  rw [bind_apply, call_eq]
  rcases w.call_cases (.checkpoint epoch) with ⟨stored, v, hr, hp⟩ | ⟨cause, v, hr, -⟩
  · left
    obtain rfl : w.store.checkpoints.get? epoch = stored := congrArg Prod.fst (Except.ok.inj hp)
    have hv : v = w' := (congrArg Prod.snd hr).symm
    rw [hr, hv]
    refine ⟨_, rfl, fun step => ?_⟩
    unfold Store.syncedAt
    rcases w.store.checkpoints.get? epoch with _ | p
    · cases step <;> rfl
    · rfl
  · right
    have hv : v = w' := (congrArg Prod.snd hr).symm
    rw [hr, hv]
    exact ⟨_, rfl⟩

omit [LedgerService L] in
theorem checkpoint_ensures (P : Store → Prop) (epoch : Epoch) :
    Ensures P (checkpoint epoch : Run L EpochCheckpoint) (fun p s => P s ∧ Noted p epoch s) P := by
  intro w hw
  have hstore : (w.call (.checkpoint epoch)).2.store = w.store := World.call_store rfl w
  rcases checkpoint_cases epoch w with ⟨p, hread, hp⟩ | ⟨halt, hread⟩ <;> rw [hread]
  · change P _ ∧ Noted p epoch _
    rw [hstore]
    exact ⟨hw, fun q hq => (hp q).symm.trans hq⟩
  · change P _
    rw [hstore]
    exact hw

theorem runStep_marks (c : Settings) (epoch : Epoch) (p : EpochCheckpoint) (step : EpochStep) :
    Ensures (Noted p epoch) (runStep c epoch p step : Run L (Option (EpochStep × Nat)))
      (fun _ s => Noted p epoch s ∧ s.Marked c epoch step) (fun _ => True) := by
  apply Ensures.naming
  intro s₀ hnoted
  apply (runStep_ensures c epoch p step s₀).mono (fun _ => id)
  · rintro _ s (⟨hwants, rfl⟩ | ⟨s₁, now, hwork, -, rfl⟩)
    · refine ⟨hnoted, fun hwanted => hnoted step ?_⟩
      by_cases hstep : step = .delegators
      · simpa [Settings.wants, hwanted hstep] using hwants
      · simpa [Settings.wants, hstep] using hwants
    · have hgrows : Grows s₀ (s₁.markStep epoch step now) :=
        trans_of Grows hwork.grows (s₁.markStep_grows epoch step now)
      refine ⟨fun q hq => hgrows.isSome (hnoted q hq), fun _ => ?_⟩
      rw [Store.markStep_syncedAt, if_pos ⟨rfl, rfl⟩]
      cases s₁.syncedAt epoch step <;> rfl
  · exact fun _ _ => trivial

theorem runSteps_marks (c : Settings) (epoch : Epoch) (p : EpochCheckpoint)
    (steps : List EpochStep) :
    Ensures (Noted p epoch) (runSteps c epoch p steps : Run L (List (EpochStep × Nat)))
      (fun _ s => ∀ step ∈ steps, s.Marked c epoch step) (fun _ => True) := by
  induction steps with
  | nil => exact Ensures.pure fun _ _ => nofun
  | cons step rest ih =>
    apply Ensures.bind (runStep_marks c epoch p step)
    intro first
    apply Ensures.naming
    rintro s₁ ⟨hnoted, hmarked⟩
    -- The mark of the first step stays while the others run.
    have hrest := (ih.pre fun s (hs : s = s₁) => hs ▸ hnoted).and
      ((runSteps_grows c epoch p rest).relates s₁)
    apply Ensures.bind (hrest.mono (fun _ => id) (fun _ _ => id) fun _ _ => trivial)
    intro others
    apply Ensures.pure
    rintro s ⟨hmarks, hgrows⟩
    exact List.forall_mem_cons.mpr ⟨hgrows.marked hmarked, hmarks⟩

/-- The store is sound, and the step before the first of the given ones is marked. -/
def SoundBefore (epoch : Epoch) (steps : List EpochStep) (s : Store) : Prop :=
  Sound s ∧ ∀ step ∈ steps.head?, ∀ q ∈ step.prev, (s.syncedAt epoch q).isSome

theorem runStep_sound (c : Settings) (epoch : Epoch) (p : EpochCheckpoint) (step : EpochStep)
    (rest : List EpochStep) :
    Ensures (SoundBefore epoch (step :: rest))
      (runStep c epoch p step : Run L (Option (EpochStep × Nat))) (fun _ => Sound) Sound := by
  apply Ensures.naming
  rintro s₀ ⟨hsound, hprev⟩
  apply (runStep_ensures c epoch p step s₀).mono (fun _ => id)
  · rintro _ s (⟨-, rfl⟩ | ⟨s₁, now, hwork, hrow, rfl⟩)
    · exact hsound
    · have hfounded : s₁.Founded epoch step :=
        ⟨fun q hq => hwork.grows.isSome (hprev step rfl q hq), hrow⟩
      exact (hsound.works hwork).markStep hfounded now
  · exact fun s hwork => hsound.works hwork

/-- Steps that follow each other keep the store sound. -/
theorem runSteps_sound (c : Settings) (epoch : Epoch) (p : EpochCheckpoint)
    {steps : List EpochStep} (hchain : steps.IsChain fun a b => b.prev = some a) :
    Ensures (fun s => SoundBefore epoch steps s ∧ Noted p epoch s)
      (runSteps c epoch p steps : Run L (List (EpochStep × Nat))) (fun _ => Sound) Sound := by
  -- In front of every step the one before it is marked, by this run or by an earlier one.
  induction steps with
  | nil => exact Ensures.pure fun s hs => hs.1.1
  | cons step rest ih =>
    obtain ⟨hfollows, hrest⟩ := List.isChain_cons.mp hchain
    have hsound := (runStep_sound (L := L) c epoch p step rest).pre
      fun s (hs : SoundBefore epoch (step :: rest) s ∧ Noted p epoch s) => hs.1
    have hmarks := (runStep_marks (L := L) c epoch p step).pre
      fun s (hs : SoundBefore epoch (step :: rest) s ∧ Noted p epoch s) => hs.2
    apply Ensures.bind ((hsound.and hmarks).mono (fun _ => id) (fun _ _ => id) fun _ hs => hs.1)
    intro first
    refine Ensures.bind (Q := fun _ => Sound) ?_ fun _ => Ensures.pure fun _ => id
    apply (ih hrest).pre
    rintro s ⟨hs, hnoted, hmarked⟩
    refine ⟨⟨hs, fun next hnext q hq => ?_⟩, hnoted⟩
    have hprev := hfollows next hnext
    obtain rfl : step = q := Option.some.inj (hprev.symm.trans hq)
    apply hmarked
    -- Only the last step may be left out, and none follows it.
    rintro rfl
    cases next <;> cases hprev

/-- A sync of an epoch leaves a sound store, whether it ends or halts. -/
theorem syncEpoch_sound (c : Settings) (epoch : Epoch) :
    Ensures Sound (syncEpoch c epoch : Run L EpochReport) (fun _ => Sound) Sound := by
  apply Ensures.bind (checkpoint_ensures Sound epoch)
  intro p
  refine Ensures.bind (Q := fun _ => Sound) ?_ fun _ => Ensures.pure fun _ => id
  apply (runSteps_sound c epoch p (by decide)).pre
  rintro s ⟨hsound, hnoted⟩
  exact ⟨⟨hsound, by simp [EpochStep.all, EpochStep.prev]⟩, hnoted⟩

theorem syncEpoch_differIn (c : Settings) (epoch : Epoch) :
    Moves (DifferIn fun e _ => e = epoch) (syncEpoch c epoch : Run L EpochReport) := by
  apply Moves.bind ((Reads.checkpoint epoch).differIn _)
  intro p
  refine Moves.bind ?_ fun _ => Moves.pure _
  exact (runSteps_differIn c epoch p _).mono fun _ _ h => h.mono fun _ _ hmem => hmem.1

theorem syncEpoch_grows (c : Settings) (epoch : Epoch) :
    Moves Grows (syncEpoch c epoch : Run L EpochReport) := by
  apply Moves.bind (Reads.checkpoint epoch).grows
  intro p
  exact Moves.bind (runSteps_grows c epoch p _) fun _ => Moves.pure _

/-- A sync of an epoch halts in a step: it read the checkpoint, the steps before ended, and the step
halted. -/
def HaltsIn (c : Settings) (epoch : Epoch) (step : EpochStep) (w : World L) : Prop :=
  ∃ p w₁ ran w₂ halt w', checkpoint epoch w = (.ok p, w₁) ∧
    runSteps c epoch p step.before w₁ = (.ok ran, w₂) ∧
    runStep c epoch p step w₂ = (.error halt, w')

instance (c : Settings) (epoch : Epoch) (step : EpochStep) (w : World L) :
    Decidable (HaltsIn c epoch step w) :=
  match hread : checkpoint epoch w with
  | (.error _, _) => .isFalse fun ⟨_, _, _, _, _, _, h, _⟩ => by cases hread.symm.trans h
  | (.ok p, w₁) =>
    match hbefore : runSteps c epoch p step.before w₁ with
    | (.error _, _) => .isFalse fun ⟨_, _, _, _, _, _, h, h', _⟩ => by
      cases hread.symm.trans h
      cases hbefore.symm.trans h'
    | (.ok ran, w₂) =>
      match hstep : runStep c epoch p step w₂ with
      | (.ok _, _) => .isFalse fun ⟨_, _, _, _, _, _, h, h', h''⟩ => by
        cases hread.symm.trans h
        cases hbefore.symm.trans h'
        cases hstep.symm.trans h''
      | (.error halt, w') => .isTrue ⟨p, w₁, ran, w₂, halt, w', hread, hbefore, hstep⟩

section

variable {c : Settings} {p : EpochCheckpoint} {before : List EpochStep} {halt : Halt}
  {w w₁ w' : World L}

theorem runSteps_of_halt {ran : List (EpochStep × Nat)}
    (hbefore : runSteps c epoch p before w = (.ok ran, w₁))
    (hstep : runStep c epoch p step w₁ = (.error halt, w')) (rest : List EpochStep) :
    runSteps c epoch p (before ++ step :: rest) w = (.error halt, w') := by
  induction before generalizing w ran with
  | nil =>
    cases hbefore
    exact bind_apply_of_error hstep _
  | cons first others ih =>
    unfold runSteps at hbefore
    rw [bind_apply] at hbefore
    rcases hfirst : runStep c epoch p first w with ⟨_ | x, v⟩ <;> rw [hfirst] at hbefore
    · cases hbefore
    · dsimp only at hbefore
      rw [bind_apply] at hbefore
      rcases hothers : runSteps c epoch p others v with ⟨_ | xs, v'⟩ <;> rw [hothers] at hbefore
      · cases hbefore
      · cases hbefore
        rw [List.cons_append, runSteps, bind_apply_of_ok hfirst]
        exact bind_apply_of_error (ih hothers) _

theorem exists_of_runSteps_halt {steps : List EpochStep}
    (h : runSteps c epoch p steps w = (.error halt, w')) :
    ∃ before step rest ran w₁, steps = before ++ step :: rest ∧
      runSteps c epoch p before w = (.ok ran, w₁) ∧
      runStep c epoch p step w₁ = (.error halt, w') := by
  induction steps generalizing w with
  | nil => cases h
  | cons first others ih =>
    unfold runSteps at h
    rw [bind_apply] at h
    rcases hfirst : runStep c epoch p first w with ⟨_ | x, v⟩ <;> rw [hfirst] at h
    · cases h
      exact ⟨[], first, others, [], w, rfl, rfl, hfirst⟩
    · dsimp only at h
      rw [bind_apply] at h
      rcases hothers : runSteps c epoch p others v with ⟨_ | xs, v'⟩ <;> rw [hothers] at h
      · cases h
        obtain ⟨before, step, rest, ran, w₁, rfl, hbefore, hstep⟩ := ih hothers
        refine ⟨first :: before, step, rest, x.toList ++ ran, w₁, rfl, ?_, hstep⟩
        rw [runSteps, bind_apply_of_ok hfirst, bind_apply_of_ok hbefore]
        rfl
      · cases h

end

/-- A sync that halts in a step leaves the marks from that step on, and the rows of the steps behind
it, as they were. -/
theorem HaltsIn.sameFrom {c : Settings} {w : World L} (h : HaltsIn c epoch step w) :
    ∃ halt w', syncEpoch c epoch w = (.error halt, w') ∧
      w.store.SameFrom epoch step w'.store := by
  obtain ⟨p, w₁, ran, w₂, halt, w', hread, hbefore, hstep⟩ := h
  refine ⟨halt, w', ?_, ?_⟩
  · have hsteps := runSteps_of_halt hbefore hstep step.after
    rw [← EpochStep.all_eq] at hsteps
    unfold syncEpoch
    rw [bind_apply_of_ok hread]
    exact bind_apply_of_error hsteps _
  · have hsame : w.store.SameFrom epoch step w₁.store := by
      have hmoves : Moves (Works epoch step) (checkpoint epoch : Run L EpochCheckpoint) :=
        (Reads.checkpoint epoch).works
      have hsame := hmoves w
      rw [hread] at hsame
      exact hsame.sameFrom
    have hran : w₁.store.SameFrom epoch step w₂.store := by
      have hdiffer := runSteps_differIn c epoch p step.before w₁
      rw [hbefore] at hdiffer
      apply Store.SameFrom.of_differIn hdiffer
      exact fun q hq hmem => step.not_mem_before q hq hmem.2
    have hwork := (runStep_ensures c epoch p step w₂.store).halt rfl hstep
    exact (hsame.trans hran).trans hwork.sameFrom

/-- A sync of an epoch that halts could not read the checkpoint or halts in a step. -/
theorem exists_haltsIn {c : Settings} {halt : Halt} {w w' : World L}
    (h : syncEpoch c epoch w = (.error halt, w')) :
    checkpoint epoch w = (.error halt, w') ∨ ∃ step, HaltsIn c epoch step w := by
  unfold syncEpoch at h
  rw [bind_apply] at h
  rcases hread : checkpoint epoch w with ⟨_ | p, w₁⟩ <;> rw [hread] at h
  · cases h
    exact .inl rfl
  · right
    dsimp only at h
    rw [bind_apply] at h
    rcases hsteps : runSteps c epoch p EpochStep.all w₁ with ⟨_ | ran, w₂⟩ <;> rw [hsteps] at h
    · cases h
      obtain ⟨before, step, rest, ran, w₂, hall, hbefore, hstep⟩ := exists_of_runSteps_halt hsteps
      rw [EpochStep.before_eq hall] at hbefore
      exact ⟨step, p, w₁, ran, w₂, halt, w', hread, hbefore, hstep⟩
    · cases h

end Run

end GovernanceIndex
