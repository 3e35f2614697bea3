import GovernanceIndex.Number.Word
import Mathlib.Algebra.Ring.Nat
import Mathlib.Order.Basic

/-!
Operations on words that may overflow. A checked operation gives its exact result or none, and a
saturating one gives the greatest value where there is none. A power comes out of repeated squaring,
none of whose products overflows unless the power does.
-/
namespace GovernanceIndex

/-- What a checked operation makes of a number: its result has that value, or there is no result
and the number is above the bound of all values. -/
def Computes {α : Type} (value : α → ℕ) (bound n : ℕ) : Option α → Prop
  | some a => value a = n
  | none => bound < n

namespace Computes

variable {α β : Type} {value : α → ℕ} {value' : β → ℕ} {bound bound' m n : ℕ} {r : Option α}
  {f : α → Option β}

/-- A checked operation may follow another one if the number is too large whenever the one before
it is. -/
theorem bind (h : Computes value bound m r) (hover : bound < m → bound' < n)
    (hf : ∀ a, value a = m → Computes value' bound' n (f a)) :
    Computes value' bound' n (r >>= f) := by
  cases r with
  | none => exact hover h
  | some a => exact hf a h

theorem exists_eq_some (h : Computes value bound n r) (hn : n ≤ bound) :
    ∃ a, r = some a ∧ value a = n := by
  cases r with
  | none => exact absurd h hn.not_gt
  | some a => exact ⟨a, rfl, h⟩

theorem getD {top : α} (h : Computes value bound n r) (htop : value top = bound)
    (hbound : ∀ a, value a ≤ bound) : value (r.getD top) = min n bound := by
  cases r with
  | none =>
    have hover : bound < n := h
    rw [Option.getD_none, htop, Nat.min_eq_right hover.le]
  | some a =>
    have hvalue : value a = n := h
    rw [Option.getD_some, hvalue, Nat.min_eq_left (hvalue ▸ hbound a)]

end Computes

namespace Word

def sub32? (a b : UInt32) : Option UInt32 := if b ≤ a then some (a - b) else none

def add32? (a b : UInt32) : Option UInt32 :=
  if a.toNat + b.toNat < UInt32.size then some (a + b) else none

def mul32? (a b : UInt32) : Option UInt32 :=
  if a.toNat * b.toNat < UInt32.size then some (a * b) else none

def mul64? (a b : UInt64) : Option UInt64 :=
  if a.toNat * b.toNat < UInt64.size then some (a * b) else none

/-- Multiplies a word with a base if the exponent is odd. -/
def mulOdd32? (acc base : UInt32) (exponent : ℕ) : Option UInt32 :=
  if exponent % 2 = 1 then mul32? acc base else some acc

/-- Multiplies a word with a power of a base, if no product on the way overflows: the exponent is
halved and the base squared until the exponent is one. -/
def mulPow32? (acc base : UInt32) (exponent : ℕ) : Option UInt32 :=
  if exponent = 0 then some acc
  else do
    let acc ← mulOdd32? acc base exponent
    if exponent = 1 then some acc
    else do
      let square ← mul32? base base
      mulPow32? acc square (exponent / 2)
termination_by exponent

/-- A power of a word, or the greatest word if that is too large. -/
def saturatingPow32 (base exponent : UInt32) : UInt32 :=
  (mulPow32? 1 base exponent.toNat).getD 4294967295

theorem toNat_pos_of_ne_zero {a : UInt32} (ha : a ≠ 0) : 0 < a.toNat :=
  Nat.pos_of_ne_zero fun h => ha (UInt32.toNat_inj.mp h)

theorem sub32?_one {a : UInt32} (ha : a ≠ 0) :
    ∃ b, sub32? a 1 = some b ∧ b.toNat = a.toNat - 1 := by
  have hone : 1 ≤ a := UInt32.le_iff_toNat_le.mpr (toNat_pos_of_ne_zero ha)
  exact ⟨a - 1, if_pos hone, UInt32.toNat_sub_of_le a 1 hone⟩

theorem add32?_computes (a b : UInt32) :
    Computes UInt32.toNat 4294967295 (a.toNat + b.toNat) (add32? a b) := by
  unfold add32?
  split
  · next h => exact (UInt32.toNat_add a b).trans (Nat.mod_eq_of_lt h)
  · next h => exact Nat.lt_of_succ_le (Nat.not_lt.mp h)

theorem mul32?_computes (a b : UInt32) :
    Computes UInt32.toNat 4294967295 (a.toNat * b.toNat) (mul32? a b) := by
  unfold mul32?
  split
  · next h => exact (UInt32.toNat_mul a b).trans (Nat.mod_eq_of_lt h)
  · next h => exact Nat.lt_of_succ_le (Nat.not_lt.mp h)

theorem mul64?_computes (a b : UInt64) :
    Computes UInt64.toNat 18446744073709551615 (a.toNat * b.toNat) (mul64? a b) := by
  unfold mul64?
  split
  · next h => exact (UInt64.toNat_mul a b).trans (Nat.mod_eq_of_lt h)
  · next h => exact Nat.lt_of_succ_le (Nat.not_lt.mp h)

theorem add64?_computes (a : UInt64) (n : ℕ) :
    Computes UInt64.toNat 18446744073709551615 (a.toNat + n) (add64? a n) := by
  unfold add64?
  split
  · next h => exact UInt64.toNat_ofNat_of_lt' h
  · next h => exact Nat.lt_of_succ_le (Nat.not_lt.mp h)

theorem mulOdd32?_computes (acc base : UInt32) (exponent : ℕ) :
    Computes UInt32.toNat 4294967295 (acc.toNat * base.toNat ^ (exponent % 2))
      (mulOdd32? acc base exponent) := by
  unfold mulOdd32?
  split
  · next hodd =>
    rw [hodd, pow_one]
    exact mul32?_computes acc base
  · next heven =>
    rw [Nat.mod_two_ne_one.mp heven, pow_zero, mul_one]
    rfl

/-- Halving the exponent and squaring the base leave the product with the power as it is, and a
product on the way is a factor of it, so that it overflows only if the whole does. -/
theorem mulPow32?_computes (acc base : UInt32) (exponent : ℕ) (hacc : 0 < acc.toNat)
    (hbase : 0 < base.toNat) :
    Computes UInt32.toNat 4294967295 (acc.toNat * base.toNat ^ exponent)
      (mulPow32? acc base exponent) := by
  -- The exponent is halved from step to step, and neither word ever becomes zero.
  induction exponent using Nat.strong_induction_on generalizing acc base with
  | _ exponent ih =>
    rw [mulPow32?]
    split
    · next hzero =>
      rw [hzero, pow_zero, mul_one]
      rfl
    · refine (mulOdd32?_computes acc base exponent).bind (fun hover => hover.trans_le ?_)
        fun acc' hacc' => ?_
      · exact Nat.mul_le_mul_left _ (Nat.pow_le_pow_right hbase (Nat.mod_le _ _))
      split
      · next hone =>
        rw [hone] at hacc' ⊢
        exact hacc'
      · refine (mul32?_computes base base).bind (fun hover => hover.trans_le ?_)
          fun square hsquare => ?_
        · rw [← pow_two]
          exact (Nat.pow_le_pow_right hbase (by omega)).trans (Nat.le_mul_of_pos_left _ hacc)
        · have hpower : acc.toNat * base.toNat ^ exponent =
              acc'.toNat * square.toNat ^ (exponent / 2) := by
            rw [hacc', hsquare, ← pow_two, ← pow_mul, mul_assoc, ← pow_add, Nat.mod_add_div]
          have hacc'pos : 0 < acc'.toNat := hacc' ▸ Nat.mul_pos hacc (Nat.pow_pos hbase)
          have hsquarepos : 0 < square.toNat := hsquare ▸ Nat.mul_pos hbase hbase
          rw [hpower]
          exact ih _ (by omega) acc' square hacc'pos hsquarepos

theorem saturatingPow32_toNat (base exponent : UInt32) (hbase : 0 < base.toNat) :
    (saturatingPow32 base exponent).toNat = min (base.toNat ^ exponent.toNat) 4294967295 := by
  have hpower := mulPow32?_computes 1 base exponent.toNat Nat.one_pos hbase
  rw [UInt32.toNat_one, one_mul] at hpower
  exact hpower.getD rfl fun a => Nat.le_of_lt_succ a.toNat_lt

end Word

end GovernanceIndex
