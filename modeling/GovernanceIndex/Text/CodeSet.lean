import GovernanceIndex.Text.Split

/-!
Sets of characters, as ranges of code points. Tables write a set in words: a hexadecimal code point,
or two of them with a hyphen between, which are the ends of a range.
-/
namespace GovernanceIndex.Text

def readHex (s : List Char) : Nat :=
  s.foldl (fun n c => 16 * n + if c.toNat ≤ 57 then c.toNat - 48 else c.toNat - 55) 0

def words (lines : List String) : List (List Char) :=
  lines.flatMap fun line => split (· = ' ') line.toList

/-- A set of characters; each pair holds the ends of a range. -/
structure CodeSet where
  ranges : List (Nat × Nat)
  deriving DecidableEq, Repr

namespace CodeSet

def readRange (word : List Char) : Nat × Nat :=
  let (first, last) := cut '-' word
  (readHex first, readHex (last.getD first))

def ofLines (lines : List String) : CodeSet := ⟨(words lines).map readRange⟩

def contains (s : CodeSet) (c : Char) : Bool :=
  s.ranges.any fun r => decide (r.1 ≤ c.toNat) && decide (c.toNat ≤ r.2)

end CodeSet

end GovernanceIndex.Text
