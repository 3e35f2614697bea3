import GovernanceIndex.Amount
import GovernanceIndex.Json.Decode

/-!
Percentages in hundredths of a percent, from 0 to 100. A share is truncated for display; whether a
share meets a threshold is decided exactly, by cross multiplication.
-/
namespace GovernanceIndex

/-- A percentage in hundredths. -/
structure Percent where
  hundredths : Nat
  le_hundred : hundredths ≤ 10000

namespace Percent

@[ext]
theorem ext {a b : Percent} (h : a.hundredths = b.hundredths) : a = b := by
  cases a; cases b; cases h; rfl

instance : DecidableEq Percent := fun a b =>
  if h : a.hundredths = b.hundredths then .isTrue (ext h) else .isFalse fun e => h (e ▸ rfl)

instance : Repr Percent := ⟨fun p _ => repr p.hundredths⟩

/-- A percentage of so many hundredths, at most one hundred. -/
def ofHundredths (n : Nat) : Percent := ⟨min n 10000, Nat.min_le_right _ _⟩

/-- A percentage of so many whole percents, at most one hundred. -/
def ofWhole (n : Nat) : Percent := ofHundredths (n * 100)

def zero : Percent := ofHundredths 0

/-- The truncated share of a part in a whole; nothing has no shares. -/
def share (part whole : Nat) : Percent :=
  if whole = 0 then zero else ofHundredths (part * 10000 / whole)

/-- Whether a part of a whole is at least the threshold; a share of nothing never is. -/
def isMetBy (threshold : Percent) (part whole : Nat) : Bool :=
  decide (whole ≠ 0 ∧ threshold.hundredths * whole ≤ part * 10000)

def render (p : Percent) : String :=
  let places := Nat.toDigits 10 (p.hundredths % 100)
  String.ofList (Nat.toDigits 10 (p.hundredths / 100) ++
    '.' :: (List.replicate (2 - places.length) '0' ++ places))

def encode (p : Percent) : Json := .float ⟨false, p.hundredths, -2⟩

def number? : Json → Option Float
  | .int n => some (if 0 ≤ n then n.toNat.toUInt64.toFloat else -(-n).toNat.toUInt64.toFloat)
  | .float d => d.toFloat?
  | _ => none

/-- Decodes a number between 0 and 100, rounded to hundredths, halves upwards. -/
def decode (x : Json) : Decoded Percent :=
  match number? x with
  | none => .error .shape
  | some v =>
    if 0.0 ≤ v ∧ v ≤ 100.0 then .ok (ofHundredths (v * 100.0).round.toUInt64.toNat)
    else .error (.percentOutOfRange (Binary.shortest v))

end Percent

end GovernanceIndex
