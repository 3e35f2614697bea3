import GovernanceIndex.Proofs.Number.CheckedWord
import GovernanceIndex.Time.Duration
import Mathlib.Order.Nat
import Mathlib.Tactic.Ring

/-!
Lengths of time by their nanoseconds, and in words. In words a length is a number of seconds and the
nanoseconds beside them, and a product carries the nanoseconds over into the seconds: only the
seconds may become too many.
-/
namespace GovernanceIndex.Duration

theorem ofNanos_nanos {n : ℕ} (h : n ≤ maxNanos) : (ofNanos n).nanos = n := Nat.min_eq_left h

theorem ofMillis_nanos (n : UInt64) : (ofMillis n).nanos = n.toNat * 1000000 := by
  have hn := n.toNat_lt
  apply ofNanos_nanos
  dsimp only [maxNanos, nanosPerSecond]
  omega

theorem ofSecs_nanos (n : UInt64) : (ofSecs n).nanos = n.toNat * nanosPerSecond := by
  have hn := n.toNat_lt
  apply ofNanos_nanos
  dsimp only [maxNanos, nanosPerSecond]
  omega

variable {a b : Duration}

theorem min_nanos (a b : Duration) : (a.min b).nanos = a.nanos ⊓ b.nanos :=
  apply_ite nanos _ _ _

theorem min_le_right (a b : Duration) : (a.min b).nanos ≤ b.nanos := by
  rw [min_nanos]
  exact Nat.min_le_right _ _

theorem min_eq_left (h : a.nanos ≤ b.nanos) : a.min b = a := if_pos h

theorem forall_min_eq_iff : (∀ d : Duration, d.min a = d.min b) ↔ a = b := by
  constructor
  · intro h
    have hle {c d : Duration} (hcd : c.min c = c.min d) : c.nanos ≤ d.nanos := by
      rw [min_eq_left le_rfl] at hcd
      rw [hcd]
      exact min_le_right c d
    exact ext (Nat.le_antisymm (hle (h a)) (hle (h b).symm))
  · exact fun h _ => h ▸ rfl

/-- Where a number of nanoseconds is cut to a length, it does not matter that it was cut to the
longest one before. -/
theorem inf_maxNanos_inf (n : ℕ) (d : Duration) : n ⊓ maxNanos ⊓ d.nanos = n ⊓ d.nanos := by
  have hd := d.le_max
  omega

theorem scale_min_nanos (a b : Duration) (k : ℕ) :
    ((a.scale k).min b).nanos = (a.nanos * k) ⊓ b.nanos := by
  rw [min_nanos]
  exact inf_maxNanos_inf _ _

structure Parts where
  secs : UInt64
  nanos : UInt32
  nanos_lt : nanos.toNat < nanosPerSecond

namespace Parts

/-- The nanoseconds that a length comes to. -/
def total (p : Parts) : ℕ := p.secs.toNat * nanosPerSecond + p.nanos.toNat

theorem total_le (p : Parts) : p.total ≤ maxNanos := by
  have hsecs := p.secs.toNat_lt
  have hnanos := p.nanos_lt
  dsimp only [total, maxNanos, nanosPerSecond] at *
  omega

def longest : Parts := ⟨18446744073709551615, 999999999, by decide⟩

/-- The shorter length: the nanoseconds decide between equal seconds. -/
def min (p q : Parts) : Parts :=
  if p.secs < q.secs ∨ p.secs = q.secs ∧ p.nanos ≤ q.nanos then p else q

theorem nanos_of_word (n : UInt64) :
    (n % 1000000000).toUInt32.toNat = n.toNat % nanosPerSecond := by
  rw [UInt64.toNat_toUInt32, UInt64.toNat_mod]
  change n.toNat % 1000000000 % 4294967296 = n.toNat % 1000000000
  omega

/-- So many nanoseconds beside some seconds: what they come to in seconds is added to these. -/
def carry? (secs nanos : UInt64) : Option Parts := do
  let secs ← Word.add64? secs (nanos / 1000000000).toNat
  return ⟨secs, (nanos % 1000000000).toUInt32,
    nanos_of_word nanos ▸ Nat.mod_lt _ (by decide)⟩

/-- The product, unless its seconds are too many, once its nanoseconds are known. -/
def mul? (p : Parts) (k : UInt32) (nanos : UInt64) : Option Parts := do
  let secs ← Word.mul64? p.secs k.toUInt64
  carry? secs nanos

/-- The product, or the longest length in its place; none if the product of the nanoseconds
overflows. -/
def saturatingMul? (p : Parts) (k : UInt32) : Option Parts := do
  let nanos ← Word.mul64? p.nanos.toUInt64 k.toUInt64
  return (p.mul? k nanos).getD longest

theorem min_total (p q : Parts) : (p.min q).total = p.total ⊓ q.total := by
  have hp := p.nanos_lt
  have hq := q.nanos_lt
  unfold min
  simp only [UInt64.lt_iff_toNat_lt, UInt32.le_iff_toNat_le, ← UInt64.toNat_inj]
  split
  all_goals
    dsimp only [total, nanosPerSecond] at *
    omega

theorem carry?_computes (secs nanos : UInt64) :
    Computes total maxNanos (secs.toNat * nanosPerSecond + nanos.toNat) (carry? secs nanos) := by
  have hdiv : (nanos / 1000000000).toNat = nanos.toNat / nanosPerSecond := UInt64.toNat_div _ _
  unfold carry?
  rw [hdiv]
  refine (Word.add64?_computes _ _).bind (fun hover => ?_) fun secs' hsecs => ?_
  · dsimp only [maxNanos, nanosPerSecond] at *
    omega
  · change secs'.toNat * nanosPerSecond + _ = _
    rw [hsecs, nanos_of_word]
    dsimp only [nanosPerSecond]
    omega

theorem mul?_computes (p : Parts) (k : UInt32) {nanos : UInt64}
    (hnanos : nanos.toNat = p.nanos.toNat * k.toNat) :
    Computes total maxNanos (p.total * k.toNat) (p.mul? k nanos) := by
  have htotal : p.total * k.toNat = p.secs.toNat * k.toNat * nanosPerSecond + nanos.toNat := by
    rw [hnanos, total]
    ring
  rw [htotal]
  refine (Word.mul64?_computes p.secs k.toUInt64).bind (fun hover => ?_) fun secs hsecs => ?_
  · rw [UInt32.toNat_toUInt64] at hover
    dsimp only [maxNanos, nanosPerSecond]
    omega
  · rw [UInt32.toNat_toUInt64] at hsecs
    rw [← hsecs]
    exact carry?_computes secs nanos

/-- The product of the nanoseconds never overflows, and the length that comes out is the exact
product unless the longest length is shorter. -/
theorem saturatingMul?_total (p : Parts) (k : UInt32) :
    ∃ q, p.saturatingMul? k = some q ∧ q.total = (p.total * k.toNat) ⊓ maxNanos := by
  have hnanos := Word.mul64?_computes p.nanos.toUInt64 k.toUInt64
  rw [UInt32.toNat_toUInt64, UInt32.toNat_toUInt64] at hnanos
  have hfits : p.nanos.toNat * k.toNat < nanosPerSecond * 2 ^ 32 :=
    Nat.mul_lt_mul'' p.nanos_lt k.toNat_lt
  obtain ⟨nanos, hsome, hproduct⟩ := hnanos.exists_eq_some
    (hfits.le.trans (by decide))
  refine ⟨(p.mul? k nanos).getD longest, ?_, ?_⟩
  · unfold saturatingMul?
    rw [hsome]
    rfl
  · exact (mul?_computes p k hproduct).getD rfl total_le

end Parts

theorem subsecNanos_lt (d : Duration) : d.subsecNanos < nanosPerSecond :=
  Nat.mod_lt _ (by decide)

theorem toNat_ofNat_secs (d : Duration) : (UInt64.ofNat d.secs).toNat = d.secs := by
  have hmax := d.le_max
  apply UInt64.toNat_ofNat_of_lt'
  change d.nanos / nanosPerSecond < 18446744073709551616
  dsimp only [maxNanos, nanosPerSecond] at *
  omega

theorem toNat_ofNat_subsecNanos (d : Duration) :
    (UInt32.ofNat d.subsecNanos).toNat = d.subsecNanos :=
  UInt32.toNat_ofNat_of_lt' (d.subsecNanos_lt.trans (by decide))

def parts (d : Duration) : Parts where
  secs := .ofNat d.secs
  nanos := .ofNat d.subsecNanos
  nanos_lt := d.toNat_ofNat_subsecNanos.trans_lt d.subsecNanos_lt

theorem parts_total (d : Duration) : d.parts.total = d.nanos := by
  change (UInt64.ofNat d.secs).toNat * nanosPerSecond + (UInt32.ofNat d.subsecNanos).toNat = _
  rw [toNat_ofNat_secs, toNat_ofNat_subsecNanos]
  exact Nat.div_add_mod' _ _

end GovernanceIndex.Duration
