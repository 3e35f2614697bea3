import GovernanceIndex.Proofs.Run.FanOut
import GovernanceIndex.Run.TimedItem
import GovernanceIndex.Sync.Lookup

/-!
Work on items each of which has an outcome of its own. Whichever item in flight has the next turn,
the items in flight are a window that moves along the items in their order: it is never wider than
the limit, and it is as wide as the limit until the last item has started, whatever the items before
came to. In the end each outcome is there once, with the values or with the failures.
-/
namespace GovernanceIndex

/-- What work on many items came to: the values of those that succeeded, and those that failed with
their causes. -/
structure Batch (κ α ε : Type) where
  successful : List α := []
  failed : List (κ × ε) := []
  deriving DecidableEq, Repr

namespace Batch

variable {κ α ε : Type}

def total (b : Batch κ α ε) : Nat := b.successful.length + b.failed.length

def file (b : Batch κ α ε) : κ × Except ε α → Batch κ α ε
  | (_, .ok value) => { b with successful := b.successful ++ [value] }
  | (key, .error cause) => { b with failed := b.failed ++ [(key, cause)] }

/-- The outcomes of items, filed one after the other. -/
def ofOutcomes (outcomes : List (κ × Except ε α)) : Batch κ α ε := outcomes.foldl file {}

def value? (outcome : κ × Except ε α) : Option α := outcome.2.toOption

def failure? : κ × Except ε α → Option (κ × ε)
  | (_, .ok _) => none
  | (key, .error cause) => some (key, cause)

theorem ofOutcomes_eq (outcomes : List (κ × Except ε α)) :
    ofOutcomes outcomes = ⟨outcomes.filterMap value?, outcomes.filterMap failure?⟩ := by
  suffices h : ∀ b : Batch κ α ε, outcomes.foldl file b =
      ⟨b.successful ++ outcomes.filterMap value?, b.failed ++ outcomes.filterMap failure?⟩ from h {}
  induction outcomes with
  | nil => simp
  | cons outcome outcomes ih =>
    intro b
    rw [List.foldl_cons, ih, List.filterMap_cons, List.filterMap_cons]
    rcases outcome with ⟨key, cause | value⟩ <;> simp [file, value?, failure?, Except.toOption]

theorem total_ofOutcomes (outcomes : List (κ × Except ε α)) :
    (ofOutcomes outcomes).total = outcomes.length := by
  rw [ofOutcomes_eq]
  change (outcomes.filterMap value?).length + (outcomes.filterMap failure?).length = _
  induction outcomes with
  | nil => rfl
  | cons outcome outcomes ih =>
    rw [List.filterMap_cons, List.filterMap_cons, List.length_cons, ← ih]
    rcases outcome with ⟨key, cause | value⟩ <;>
      simp only [value?, failure?, Except.toOption, List.length_cons] <;> omega

end Batch

/-- The outcome of a lookup: the delegate, and if it succeeded, the delegate with its delegators. -/
def Found.outcome (f : Found) :
    DelegateId × Except LedgerError (DelegateId × List Delegator) :=
  (f.delegate, f.reply.map fun rows => (f.delegate, rows))

theorem Found.ofOutcomes (found : List Found) :
    Batch.ofOutcomes (found.map Found.outcome) = ⟨successes found, failures found⟩ := by
  rw [Batch.ofOutcomes_eq, List.filterMap_map, List.filterMap_map]
  congr 1 <;> refine List.filterMap_congr fun f _ => ?_ <;> obtain ⟨delegate, cause | rows⟩ := f <;>
    rfl

namespace FanOut

variable {L σ ρ : Type} {own : σ → ρ} {size : σ → Nat}

/-- A turn of an item ends with the outcome that the item has of its own, or leaves less to do of an
item with the same outcome. -/
abbrev OwnTurn (own : σ → ρ) (size : σ → Nat) : σ → Turn σ ρ → Prop :=
  Proceeds own (fun _ => True) Eq size

/-- Turns of items in flight, in any order. -/
abbrev OwnTurns (own : σ → ρ) (size : σ → Nat) : FanOut σ ρ → FanOut σ ρ → Prop :=
  Schedule own (fun _ => True) Eq size

/-- How many items have started. -/
def started (f : FanOut σ ρ) : Nat := f.finished.length + f.inFlight.length

/-- Items have started in their order, and those in flight are within the limit. -/
structure Window (limit : Nat) (items : List σ) (f : FanOut σ ρ) : Prop where
  limit : f.limit = effectiveLimit limit
  width : f.inFlight.length ≤ f.limit
  peak : f.peak ≤ f.limit
  pending : f.pending = items.drop f.started

variable {limit : Nat} {items : List σ} {f f' : FanOut σ ρ}

theorem window_start (limit : Nat) (items : List σ) :
    Window limit items (start limit items : FanOut σ ρ) :=
  ⟨rfl, Nat.zero_le _, Nat.zero_le _, rfl⟩

theorem Window.fill (h : Window limit items f) (clock : Nat) :
    Window limit items (f.fill clock) ∧
      ((f.fill clock).pending ≠ [] → (f.fill clock).inFlight.length = f.limit) := by
  have hwidth := h.width
  obtain ⟨room, hroom⟩ : ∃ room, room = f.limit - f.inFlight.length := ⟨_, rfl⟩
  have hlength : (f.fill clock).inFlight.length = f.inFlight.length + min room f.pending.length := by
    simp [FanOut.fill, hroom]
  have hpending : (f.fill clock).pending = f.pending.drop room := by
    rw [hroom]
    rfl
  have hstarted : (f.fill clock).started = f.started + min room f.pending.length := by
    unfold started
    rw [hlength, ← Nat.add_assoc]
    rfl
  refine ⟨⟨h.limit, ?_, h.peak, ?_⟩, fun hleft => ?_⟩
  · rw [hlength]
    change _ ≤ f.limit
    omega
  · have hleft := congrArg List.length h.pending
    rw [List.length_drop] at hleft
    rw [hpending, h.pending, List.drop_drop, hstarted, List.drop_eq_drop_iff]
    omega
  · rw [hpending, ne_eq, List.drop_eq_nil_iff] at hleft
    rw [hlength]
    omega

/-- A turn moves one item from those in flight to those that ended, or leaves it where it is. -/
theorem Window.settle {item : InFlight σ} {others : List (InFlight σ)} {turn : Turn σ ρ}
    (h : Window limit items f) (htaken : f.inFlight.Perm (item :: others)) {peak : Nat}
    (hpeak : peak ≤ f.limit) (readyAt clock : Nat) :
    Window limit items ({ f with inFlight := others, peak }.settle readyAt clock turn) := by
  have hwidth := h.width
  have hlength := htaken.length_eq
  rw [List.length_cons] at hlength
  have hpending := h.pending
  unfold started at hpending
  rcases turn with result | ⟨work, _ | delay⟩ <;> refine ⟨h.limit, ?_, hpeak, ?_⟩ <;>
    simp only [FanOut.settle, started, List.length_append, List.length_cons, List.length_nil]
  · omega
  · rw [hpending, hlength]
    congr 1
    omega
  · omega
  · rw [hpending, hlength]
  · omega
  · rw [hpending, hlength]

theorem Window.advances (h : Window limit items f)
    (hturn : Advances own (fun _ => True) Eq size f f') : Window limit items f' := by
  cases hturn with
  | turn clock readyAt now htaken hturn =>
    have hfilled := (h.fill clock).1
    have hwidth := hfilled.width
    rw [htaken.length_eq, List.length_cons] at hwidth
    refine hfilled.settle htaken (Nat.max_le.mpr ⟨h.peak, ?_⟩) readyAt now
    exact Nat.le_trans (Nat.succ_le_succ (List.length_filter_le _ _)) hwidth

theorem Window.ownTurns (h : Window limit items f) (hturns : OwnTurns own size f f') :
    Window limit items f' := by
  induction hturns with
  | refl => exact h
  | tail _ hturn ih => exact ih.advances hturn

theorem Accounts.started_perm {Inv : σ → Prop} (h : Accounts own Inv Eq (items.map own) f)
    (hpending : f.pending = items.drop f.started) :
    (f.finished.map Prod.snd ++ f.inFlight.map fun x => own x.work).Perm
      ((items.take f.started).map own) := by
  obtain ⟨-, -, -, finished, hpost, hperm⟩ := h
  rw [List.forall₂_eq_eq_eq] at hpost
  subst hpost
  have hsplit : items.map own =
      (items.take f.started).map own ++ (items.drop f.started).map own := by
    rw [← List.map_append, List.take_append_drop]
  rw [hpending, hsplit] at hperm
  exact (List.perm_append_right_iff _).mp hperm

/-- What is there when no item is left, whatever the turns that led there. -/
theorem Accounts.batch {κ α ε : Type} {Inv : σ → Prop} (report : ρ → κ × Except ε α)
    (h : Accounts own Inv Eq (items.map own) f) (hflight : f.inFlight = [])
    (hpending : f.pending = []) :
    let batch := Batch.ofOutcomes (f.finished.map fun x => report x.2)
    batch.successful.Perm (items.filterMap fun x => Batch.value? (report (own x))) ∧
      batch.failed.Perm (items.filterMap fun x => Batch.failure? (report (own x))) ∧
      batch.total = items.length := by
  obtain ⟨finished, hpost, hperm⟩ := h.finished hflight hpending
  rw [List.forall₂_eq_eq_eq] at hpost
  subst hpost
  have houtcomes : (f.finished.map fun x => report x.2).Perm (items.map fun x => report (own x)) := by
    simpa [Function.comp_def] using hperm.map report
  intro batch
  refine ⟨?_, ?_, ?_⟩
  · simpa [batch, Batch.ofOutcomes_eq, List.filterMap_map, Function.comp_def] using
      houtcomes.filterMap Batch.value?
  · simpa [batch, Batch.ofOutcomes_eq, List.filterMap_map, Function.comp_def] using
      houtcomes.filterMap Batch.failure?
  · rw [Batch.total_ofOutcomes, houtcomes.length_eq, List.length_map]

/-- Work on items that have outcomes of their own always ends, with nothing left to do. Whichever
items have the turns until then, the items start in their order, those in flight are never more than
the limit, or one, and exactly as many as long as some have not started. What is there of outcomes
and items in flight makes up the items that have started, and what is there in the end is each
value and each failure of an item once, with its own key and cause. -/
theorem run_window {κ α ε : Type} (report : ρ → κ × Except ε α) (limit : Nat) (items : List σ)
    {turn : σ → Run L (Turn σ ρ)}
    (hturn : ∀ x w, w.deadline = none →
      ∃ t w', turn x w = (.ok t, w') ∧ OwnTurn own size x t ∧ w'.deadline = none)
    {w : World L} (hdeadline : w.deadline = none) :
    (∃ f w', run limit size turn items w = (.ok f, w') ∧
      OwnTurns own size (start limit items) f ∧ f.inFlight = [] ∧ f.pending = []) ∧
    ∀ f : FanOut σ ρ, OwnTurns own size (start limit items) f →
      f.inFlight.length ≤ max 1 limit ∧ f.peak ≤ max 1 limit ∧
      (∀ clock, let g := f.fill clock
        g.inFlight.length ≤ max 1 limit ∧
        (g.pending ≠ [] → g.inFlight.length = max 1 limit) ∧
        g.pending = items.drop g.started ∧
        (g.finished.map Prod.snd ++ g.inFlight.map fun x => own x.work).Perm
          ((items.take g.started).map own)) ∧
      (f.inFlight = [] → f.pending = [] →
        let batch := Batch.ofOutcomes (f.finished.map fun x => report x.2)
        batch.successful.Perm (items.filterMap fun x => Batch.value? (report (own x))) ∧
          batch.failed.Perm (items.filterMap fun x => Batch.failure? (report (own x))) ∧
          batch.total = items.length) := by
  constructor
  · have hwait (time : Nat) : Run.Triple (fun w : World L => w.deadline = none)
        (Run.waitUntil time : Run L Unit) (fun _ w => w.deadline = none) fun _ => False := by
      intro w hw
      rw [Run.waitUntil_apply hw]
      obtain ⟨store, faults, writes, heartbeats, hpassed⟩ := w.advance_changes time
      rw [hpassed]
      exact hw
    have hturns (x : σ) (_ : True) : Run.Triple (fun w => w.deadline = none) (turn x)
        (fun t w => OwnTurn own size x t ∧ w.deadline = none) fun _ => False := by
      intro w hw
      obtain ⟨t, w', hrun, ht⟩ := hturn x w hw
      rw [hrun]
      exact ht
    have hrun := run_schedule hwait hturns limit (fun x (_ : x ∈ items) => trivial) w hdeadline
    rcases hr : run limit size turn items w with ⟨halt | f, w'⟩ <;> rw [hr] at hrun
    · exact hrun.elim
    · exact ⟨f, w', rfl, hrun.1⟩
  · intro f hturns
    have haccounts := (accounts_start limit fun _ _ => trivial).schedule hturns
    have hwindow := (window_start limit items).ownTurns hturns
    have hlimit : f.limit = max 1 limit := hwindow.limit.trans (Nat.max_comm limit 1)
    rw [← hlimit]
    refine ⟨hwindow.width, hwindow.peak, fun clock => ?_, haccounts.batch report⟩
    obtain ⟨hfilled, hfull⟩ := hwindow.fill clock
    exact ⟨hfilled.width, hfull, hfilled.pending,
      ((haccounts.fill size clock).1).started_perm hfilled.pending⟩

end FanOut

namespace TimedItem

variable {L : Type}

/-- What a timed item comes to: its number and whether it fails. -/
def result (x : TimedItem) : Nat × Bool := (x.id, x.fails)

/-- The turns that a timed item takes before its last one. -/
def waits (x : TimedItem) : Nat := if x.duration = 0 then 0 else 1

theorem turn_own (x : TimedItem) (w : World L) :
    ∃ t, (x.turn : Run L _) w = (.ok t, w) ∧ FanOut.OwnTurn result waits x t := by
  obtain ⟨id, _ | duration, fails⟩ := x
  · exact ⟨_, rfl, rfl⟩
  · exact ⟨_, rfl, rfl, trivial, Nat.one_pos⟩

end TimedItem

/-- Of three items that are worked on one at a time since the limit is nothing, the first fails, and
the others come to their ends all the same. -/
theorem FanOut.run_window_failing :
    let items : List TimedItem := [⟨0, 2, true⟩, ⟨1, 0, false⟩, ⟨2, 1, false⟩]
    let report : Nat × Bool → Nat × Except String Nat := fun x =>
      (x.1, if x.2 then .error "failed" else .ok x.1)
    let w : World Unit := { ledger := (), worker := ⟨⟨"a", by decide⟩, []⟩, now := ⟨0, 0⟩ }
    ∃ (f : FanOut TimedItem (Nat × Bool)) (w' : World Unit),
      TimedItem.run 0 items w = (.ok f, w') ∧ f.peak ≤ 1 ∧
      let batch := Batch.ofOutcomes (f.finished.map fun x => report x.2)
      batch.successful.Perm [1, 2] ∧ batch.failed.Perm [(0, "failed")] ∧ batch.total = 3 := by
  intro items report w
  have hturn (x : TimedItem) (w : World Unit) (hw : w.deadline = none) :
      ∃ t w', (x.turn : Run Unit _) w = (.ok t, w') ∧
        OwnTurn TimedItem.result TimedItem.waits x t ∧ w'.deadline = none := by
    obtain ⟨t, hrun, ht⟩ := x.turn_own w
    exact ⟨t, w, hrun, ht, hw⟩
  obtain ⟨⟨f, w', hrun, hturns, hflight, hpending⟩, hall⟩ :=
    run_window report 0 items hturn (w := w) rfl
  obtain ⟨-, hpeak, -, hbatch⟩ := hall f hturns
  exact ⟨f, w', hrun, hpeak, hbatch hflight hpending⟩

end GovernanceIndex
