import GovernanceIndex.DomainError
import GovernanceIndex.Text.Blank

/-!
Amounts of lovelace: natural numbers of any size, written in decimal digits.
-/
namespace GovernanceIndex

/-- An amount of lovelace, without an upper bound. -/
abbrev Amount := Nat

namespace Amount

def isDigit (c : Char) : Bool := 48 ≤ c.toNat && c.toNat ≤ 57

/-- The value of a list of decimal digits, the most significant first. -/
def ofDigits (cs : List Char) : Amount :=
  cs.foldl (fun n c => 10 * n + (c.toNat - 48)) 0

/-- Reads an amount: decimal digits only, blanks around them aside. -/
def parse (text : String) : Except DomainError Amount :=
  let digits := Text.trimBlanks text.toList
  if digits ≠ [] ∧ digits.all isDigit then .ok (ofDigits digits) else .error (.invalidAmount text)

def render (a : Amount) : String := String.ofList (Nat.toDigits 10 a)

def sub? (a b : Amount) : Option Amount := if b ≤ a then some (a - b) else none

/-- The difference, or zero with the flag set where it would be negative. -/
def subClamped (a b : Amount) : Amount × Bool := (a - b, decide (a < b))

end Amount

end GovernanceIndex
