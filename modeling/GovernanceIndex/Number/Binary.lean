import GovernanceIndex.Json.Value

/-!
Binary floating-point numbers of 64 bits: reading a decimal into one, and the shortest decimal that
reads back, written without an exponent.

A decimal is read by one rounding of its digits, which are those of a number of 64 bits, and one
scaling by a power of ten; it has no binary value when the result overflows.
-/
namespace GovernanceIndex.Decimal

def powerOfTen (n : Nat) : Float := Float.ofScientific 1 false n

def scale (f : Float) (e : Int) : Option Float :=
  if f == 0.0 then some 0.0
  else if 0 ≤ e then
    if e ≤ 308 then
      let g := f * powerOfTen e.toNat
      if g.isInf then none else some g
    else none
  else
    let k := (-e).toNat
    if k ≤ 308 then some (f / powerOfTen k)
    else if k ≤ 616 then some (f / powerOfTen 308 / powerOfTen (k - 308))
    else some 0.0

/-- The binary number that a decimal is read as; none if it is too large. -/
def toFloat? (d : Decimal) : Option Float :=
  (scale d.digits.toUInt64.toFloat d.exponent).map fun f => if d.negative then -f else f

end GovernanceIndex.Decimal

namespace GovernanceIndex.Binary

/-- A finite number above zero as `mantissa · 2^exponent`, with the flag that the number below is
half as far as the number above. -/
structure Parts where
  mantissa : Nat
  exponent : Int
  boundary : Bool

def parts (f : Float) : Parts :=
  let bits := f.toBits.toNat
  let fraction : Nat := bits % Nat.pow 2 52
  let biased : Nat := bits / Nat.pow 2 52 % Nat.pow 2 11
  if biased = 0 then ⟨fraction, -1074, false⟩
  else ⟨fraction + Nat.pow 2 52, (biased : Int) - 1075, fraction = 0 && biased > 1⟩

/-- The numerator and denominator of `n · 2^e · 10^(-p)`. -/
def ratio (n : Nat) (e p : Int) : Nat × Nat :=
  (n * Nat.pow 2 e.toNat * Nat.pow 10 (-p).toNat, Nat.pow 2 (-e).toNat * Nat.pow 10 p.toNat)

/-- Tests the two neighbours of a number on the grid of multiples of `10^p`: the nearer one that
reads back as the number, if any does; of two equally near ones the greater. -/
def onGrid? (v : Parts) (p : Int) : Option Nat :=
  let (num, den) := ratio (4 * v.mantissa) (v.exponent - 2) p
  let (high, _) := ratio (4 * v.mantissa + 2) (v.exponent - 2) p
  let (low, _) := ratio (4 * v.mantissa - if v.boundary then 1 else 2) (v.exponent - 2) p
  let even := v.mantissa % 2 = 0
  let inside (k : Nat) : Bool :=
    if even then decide (low ≤ k * den) && decide (k * den ≤ high)
    else decide (low < k * den) && decide (k * den < high)
  let k := num / den
  let r := num % den
  match inside k, inside (k + 1) with
  | true, true => some (if 2 * r < den then k else k + 1)
  | true, false => some k
  | false, true => some (k + 1)
  | false, false => none

/-- The first grid with a hit, from the coarsest on. -/
def shortestFrom (v : Parts) : (fuel : Nat) → (p : Int) → Nat × Int
  | 0, p => (0, p)
  | fuel + 1, p =>
    match onGrid? v p with
    | some k => (k, p)
    | none => shortestFrom v fuel (p - 1)

/-- The shortest decimal that reads back as a finite number, the nearest of those. -/
def shortest (f : Float) : Decimal :=
  let v := parts f
  let negative := f.toBits.toNat / Nat.pow 2 63 = 1
  if v.mantissa = 0 then ⟨negative, 0, 0⟩
  else
    let (k, p) := shortestFrom v 660 310
    ⟨negative, k, p⟩

/-- A decimal in positional notation, with as many places as it has. -/
def positional (d : Decimal) : String :=
  let digits := Nat.toDigits 10 d.digits
  let body :=
    if 0 ≤ d.exponent then digits ++ List.replicate d.exponent.toNat '0'
    else
      let n := (-d.exponent).toNat
      let padded := List.replicate (n + 1 - digits.length) '0' ++ digits
      padded.take (padded.length - n) ++ ['.'] ++ padded.drop (padded.length - n)
  String.ofList ((if d.negative then ['-'] else []) ++ body)

/-- The text of a finite number: the shortest digits that read back, never an exponent. -/
def text (f : Float) : String := positional (shortest f)

end GovernanceIndex.Binary
