import GovernanceIndex.Proofs.Time.Duration
import GovernanceIndex.RetryPolicy

/-!
How delays grow. A delay doubles from attempt to attempt until the power of two is the greatest word
of 32 bits, and is cut to the longest delay. Computed in words of 32 and 64 bits it is the same: the
powers and the lengths that are too large for their words are cut as well, and nothing overflows.
-/
namespace GovernanceIndex.RetryPolicy

variable {attempt : ℕ}

theorem factor_eq (attempt : ℕ) : factor attempt = min (2 ^ (attempt - 1)) 4294967295 := by
  unfold factor
  rw [Nat.pow_eq, Nat.pow_eq]
  split
  · have hpower : 2 ^ (attempt - 1) ≤ 2 ^ 31 := Nat.pow_le_pow_right (by decide) (by omega)
    omega
  · have hpower : 2 ^ 32 ≤ 2 ^ (attempt - 1) := Nat.pow_le_pow_right (by decide) (by omega)
    omega

theorem factor_mono {a b : ℕ} (h : a ≤ b) : factor a ≤ factor b := by
  have hpower : 2 ^ (a - 1) ≤ 2 ^ (b - 1) := Nat.pow_le_pow_right (by decide) (by omega)
  rw [factor_eq, factor_eq]
  exact min_le_min_right _ hpower

/-- How often the base delay is waited, whatever the strategy is. -/
def multiplier (p : RetryPolicy) (attempt : ℕ) : ℕ :=
  match p.strategy with
  | .fixed => 1
  | .exponential => factor attempt

theorem multiplier_mono (p : RetryPolicy) {a b : ℕ} (h : a ≤ b) :
    p.multiplier a ≤ p.multiplier b := by
  unfold multiplier
  cases p.strategy with
  | fixed => exact le_rfl
  | exponential => exact factor_mono h

theorem delayFor_nanos (p : RetryPolicy) (hattempt : attempt ≠ 0) :
    (p.delayFor attempt).nanos =
      min (p.baseDelay.nanos * p.multiplier attempt) p.maxDelay.nanos := by
  unfold delayFor multiplier
  rw [if_neg hattempt]
  cases p.strategy with
  | fixed => rw [Duration.min_nanos, mul_one]
  | exponential => exact Duration.scale_min_nanos _ _ _

theorem delayFor_le (p : RetryPolicy) (attempt : ℕ) :
    (p.delayFor attempt).nanos ≤ p.maxDelay.nanos := by
  by_cases hattempt : attempt = 0
  · rw [hattempt]
    exact Nat.zero_le _
  · rw [p.delayFor_nanos hattempt]
    exact min_le_right _ _

theorem delayFor_mono (p : RetryPolicy) {a b : ℕ} (h : a ≤ b) :
    (p.delayFor a).nanos ≤ (p.delayFor b).nanos := by
  by_cases ha : a = 0
  · rw [ha]
    exact Nat.zero_le _
  · rw [p.delayFor_nanos ha, p.delayFor_nanos (by omega)]
    exact min_le_min_right _ (Nat.mul_le_mul_left _ (p.multiplier_mono h))

/-- The base delay in words, as often as the strategy says. -/
def repeatedInWords? (p : RetryPolicy) (attempt : UInt32) : Option Duration.Parts :=
  match p.strategy with
  | .fixed => some p.baseDelay.parts
  | .exponential => do
    let doublings ← Word.sub32? attempt 1
    p.baseDelay.parts.saturatingMul? (Word.saturatingPow32 2 doublings)

/-- The delay after a failed attempt in words, step by step; none if a step overflows that is
neither checked nor saturating. -/
def delayInWords? (p : RetryPolicy) (attempt : UInt32) : Option Duration.Parts :=
  if attempt = 0 then some Duration.zero.parts
  else (p.repeatedInWords? attempt).map fun delay => delay.min p.maxDelay.parts

theorem repeatedInWords?_total (p : RetryPolicy) {attempt : UInt32} (hattempt : attempt ≠ 0) :
    ∃ q, p.repeatedInWords? attempt = some q ∧
      q.total = min (p.baseDelay.nanos * p.multiplier attempt.toNat) Duration.maxNanos := by
  unfold repeatedInWords? multiplier
  cases p.strategy with
  | fixed =>
    refine ⟨_, rfl, ?_⟩
    rw [Duration.parts_total, mul_one, min_eq_left p.baseDelay.le_max]
  | exponential =>
    obtain ⟨doublings, hsub, hdoublings⟩ := Word.sub32?_one hattempt
    obtain ⟨q, hq, htotal⟩ := p.baseDelay.parts.saturatingMul?_total
      (Word.saturatingPow32 2 doublings)
    refine ⟨q, ?_, ?_⟩
    · simp only [hsub]
      exact hq
    · rw [htotal, Duration.parts_total, Word.saturatingPow32_toNat 2 doublings (by decide),
        hdoublings, factor_eq]
      rfl

/-- No step overflows, and the length in words comes to the exact delay. -/
theorem delayInWords?_total (p : RetryPolicy) (attempt : UInt32) :
    ∃ d, p.delayInWords? attempt = some d ∧ d.total = (p.delayFor attempt.toNat).nanos := by
  unfold delayInWords?
  split
  · next hzero =>
    rw [hzero]
    exact ⟨_, rfl, Duration.parts_total _⟩
  · next hattempt =>
    obtain ⟨q, hq, htotal⟩ := p.repeatedInWords?_total hattempt
    refine ⟨q.min p.maxDelay.parts, ?_, ?_⟩
    · rw [hq, Option.map_some]
    · have hpos : attempt.toNat ≠ 0 := (Word.toNat_pos_of_ne_zero hattempt).ne'
      rw [Duration.Parts.min_total, htotal, Duration.parts_total, p.delayFor_nanos hpos]
      exact Duration.inf_maxNanos_inf _ _

/-- A delay is never shorter than an earlier one and never longer than the longest delay, and there
is none before the first attempt. In words of 32 and 64 bits it comes out without an overflow. Where
delays grow, the base delay is doubled exactly from attempt to attempt up to the thirty-second one;
behind it the delay stays what it would be with the greatest word in the place of the power. -/
theorem delays_exact (p : RetryPolicy) :
    p.delayFor 0 = .zero ∧
      (∀ a b, a ≤ b → (p.delayFor a).nanos ≤ (p.delayFor b).nanos ∧
        (p.delayFor b).nanos ≤ p.maxDelay.nanos) ∧
      (∀ a : UInt32, ∃ d, p.delayInWords? a = some d ∧ d.total = (p.delayFor a.toNat).nanos) ∧
      (p.strategy = .exponential →
        (∀ a, 1 ≤ a → a ≤ 32 → (p.delayFor a).nanos =
          min (p.baseDelay.nanos * 2 ^ (a - 1)) p.maxDelay.nanos) ∧
        ∀ a, 32 < a → (p.delayFor a).nanos =
          min (p.baseDelay.nanos * (2 ^ 32 - 1)) p.maxDelay.nanos) := by
  refine ⟨rfl, fun a b hab => ⟨p.delayFor_mono hab, p.delayFor_le b⟩, p.delayInWords?_total,
    fun hgrows => ?_⟩
  have hexact {a : ℕ} (ha : 1 ≤ a) :
      (p.delayFor a).nanos = min (p.baseDelay.nanos * factor a) p.maxDelay.nanos := by
    rw [p.delayFor_nanos (Nat.one_le_iff_ne_zero.mp ha), multiplier, hgrows]
  constructor
  · intro a ha hfew
    rw [hexact ha, factor, if_pos hfew]
    rfl
  · intro a hmany
    rw [hexact (by omega), factor, if_neg (by omega)]
    rfl

/-- Doubled from a second and a half on, a delay carries nanoseconds into its seconds, and behind
the thirty-second attempt it stays one base delay short of the next doubling. -/
theorem delays_exact_carrying :
    let p := exponential 40 (.ofNanos 1500000000) (.ofNanos Duration.maxNanos)
    p.strategy = .exponential ∧ (p.delayFor 32).nanos = 1500000000 * 2147483648 ∧
      (p.delayFor 33).nanos = 1500000000 * 4294967295 ∧
      (p.delayFor 32).nanos ≤ (p.delayFor 33).nanos ∧
      ∃ d, p.delayInWords? 33 = some d ∧ d.total = (p.delayFor 33).nanos := by
  intro p
  obtain ⟨-, hordered, hwords, hgrows⟩ := delays_exact p
  obtain ⟨hexact, hcut⟩ := hgrows rfl
  exact ⟨rfl, (hexact 32 (by decide) (by decide)).trans (by decide +kernel),
    (hcut 33 (by decide)).trans (by decide +kernel), (hordered 32 33 (by decide)).1, hwords 33⟩

end GovernanceIndex.RetryPolicy
