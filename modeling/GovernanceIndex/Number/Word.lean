/-!
Unsigned decimal numbers of a bounded size, with an optional plus sign. The first character that is
no digit, or makes the number too large, decides what is wrong.
-/
namespace GovernanceIndex.Word

inductive Fault where
  | empty
  | invalidDigit
  | tooLarge
  deriving DecidableEq, Repr

def Fault.message : Fault → String
  | .empty => "cannot parse integer from empty string"
  | .invalidDigit => "invalid digit found in string"
  | .tooLarge => "number too large to fit in target type"

/-- Reads digits behind a number read so far; the number stays below `bound`. -/
def readDigits (bound : Nat) : (soFar : Nat) → List Char → Except Fault Nat
  | n, [] => .ok n
  | n, c :: cs =>
    if 48 ≤ c.toNat ∧ c.toNat ≤ 57 then
      let m := 10 * n + (c.toNat - 48)
      if m < bound then readDigits bound m cs else .error .tooLarge
    else .error .invalidDigit

def read (bound : Nat) (text : String) : Except Fault Nat :=
  match text.toList with
  | [] => .error .empty
  | ['+'] => .error .invalidDigit
  | '+' :: cs => readDigits bound 0 cs
  | cs => readDigits bound 0 cs

def read32 (text : String) : Except Fault UInt32 := (read 4294967296 text).map UInt32.ofNat

def read64 (text : String) : Except Fault UInt64 :=
  (read 18446744073709551616 text).map UInt64.ofNat

def add64? (a : UInt64) (n : Nat) : Option UInt64 :=
  if a.toNat + n < 18446744073709551616 then some (UInt64.ofNat (a.toNat + n)) else none

end GovernanceIndex.Word
