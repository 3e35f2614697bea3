/-!
JSON values as they are written: repeated names of an object are kept, integers are told apart from
other numbers, and a string whose escapes name half a surrogate pair is a string without a text.
-/
namespace GovernanceIndex

/-- A decimal number `±digits · 10^exponent`. -/
structure Decimal where
  negative : Bool
  digits : Nat
  exponent : Int
  deriving DecidableEq, Repr

inductive Json where
  | null
  | bool (b : Bool)
  | int (n : Int)
  | float (d : Decimal)
  | text (s : Option String)
  | list (xs : List Json)
  | object (fields : List (Option String × Json))

namespace Json

def str (s : String) : Json := .text (some s)

def obj (fields : List (String × Json)) : Json :=
  .object (fields.map fun f => (some f.1, f.2))

def nat (n : Nat) : Json := .int n

def optional {α : Type} (encode : α → Json) : Option α → Json
  | none => .null
  | some a => encode a

/-- The integers that a number without fraction and exponent can hold; others are read as
decimals. -/
def IsInteger (n : Int) : Prop := -9223372036854775808 ≤ n ∧ n < 18446744073709551616

instance (n : Int) : Decidable (IsInteger n) := inferInstanceAs (Decidable (_ ∧ _))

end Json

end GovernanceIndex
