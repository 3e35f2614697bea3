import GovernanceIndex.RetryPolicy
import GovernanceIndex.Tally.Proposal

/-!
The settings of the jobs.
-/
namespace GovernanceIndex

/-- The settings of the jobs. Batch sizes and limits of zero count as one. -/
structure Settings where
  retry : RetryPolicy := .standard
  epochLease : Duration := .ofSecs 1800
  delegationLease : Duration := .ofSecs 3600
  pageSize : Nat := 1000
  infoBatchSize : Nat := 50
  historyBatchSize : Nat := 50
  writeBatchSize : Nat := 500
  epochConcurrency : Nat := 4
  delegationConcurrency : Nat := 2
  includeDelegators : Bool := false
  backfillFrom : Epoch := ⟨0⟩
  maxEpochsPerRun : Option Nat := none
  minQuotaReserve : Nat := 100
  thresholds : ThresholdTable := .mainnet
  cutover : FormulaCutover := {}
  deriving Repr

/-- Splits a list into batches of a size, the last of which may be smaller; `left` bounds their
number. -/
def batchesFrom {α : Type} (size : Nat) : (left : Nat) → List α → List (List α)
  | 0, _ => []
  | left + 1, xs =>
    if xs.isEmpty then [] else xs.take size :: batchesFrom size left (xs.drop size)

/-- Splits a list into batches of a size, but at least one. -/
def batches {α : Type} (size : Nat) (xs : List α) : List (List α) :=
  batchesFrom (max size 1) xs.length xs

theorem batchesFrom_flatten {α : Type} {size : Nat} (hsize : 0 < size) {left : Nat} {xs : List α}
    (hleft : xs.length ≤ left) : (batchesFrom size left xs).flatten = xs := by
  induction left generalizing xs with
  | zero =>
    obtain rfl : xs = [] := List.length_eq_zero_iff.mp (Nat.le_zero.mp hleft)
    rfl
  | succ left ih =>
    unfold batchesFrom
    rcases xs with _ | ⟨x, xs⟩
    · rfl
    · have hrest : ((x :: xs).drop size).length ≤ left := by
        rw [List.length_drop]
        simp only [List.length_cons] at hleft ⊢
        omega
      simp only [List.isEmpty_cons, Bool.false_eq_true, ↓reduceIte, List.flatten_cons]
      rw [ih hrest, List.take_append_drop]

@[simp]
theorem batches_flatten {α : Type} (size : Nat) (xs : List α) : (batches size xs).flatten = xs :=
  batchesFrom_flatten (Nat.lt_of_lt_of_le Nat.one_pos (Nat.le_max_right size 1)) (Nat.le_refl _)

end GovernanceIndex
