import GovernanceIndex.Text.Combining
import GovernanceIndex.Text.Composition

/-!
The composed normal form of a text: composed characters are taken apart, marks are put into the
order of their classes, and every character is composed with the marks behind it as far as that
goes. Texts that differ only in how they compose have one form.
-/
namespace GovernanceIndex.Text

/-- How often a composed character is composed of another one, at most. -/
def compositionDepth : Nat := 4

/-- Takes a character apart, down to so many levels. -/
def takeApart : (depth : Nat) → Char → List Char
  | 0, c => [c]
  | depth + 1, c =>
    match Composition.parts? c with
    | some (first, second) => takeApart depth first ++ [second]
    | none => [c]

/-- Puts a character behind a text that is held last character first; a mark goes before the marks
of a higher class. -/
def putBehind (c : Char) : List Char → List Char
  | [] => [c]
  | d :: ds =>
    if combiningClass c ≠ 0 && combiningClass c < combiningClass d then d :: putBehind c ds
    else c :: d :: ds

/-- A text with its marks in the order of their classes. -/
def orderMarks (s : List Char) : List Char :=
  (s.foldl (fun done c => putBehind c done) []).reverse

/-- The syllable of Korean letters that two characters compose: a leading consonant and a vowel, or
a syllable without a trailing consonant and that consonant. -/
def composeSyllable? (first second : Char) : Option Char :=
  let a := first.toNat
  let b := second.toNat
  if 0x1100 ≤ a && a ≤ 0x1112 && 0x1161 ≤ b && b ≤ 0x1175 then
    some (Char.ofNat (0xAC00 + ((a - 0x1100) * 21 + (b - 0x1161)) * 28))
  else if 0xAC00 ≤ a && a ≤ 0xD7A3 && (a - 0xAC00) % 28 == 0 && 0x11A8 ≤ b && b ≤ 0x11C2 then
    some (Char.ofNat (a + (b - 0x11A7)))
  else none

def composed? (first second : Char) : Option Char :=
  (composeSyllable? first second).or (Composition.compose? first second)

/-- Composes a text whose marks are in order. Of the part behind the last composed text, the first
character of class zero is `start`, the marks kept behind it, last one first, are `kept`, and
`last` is the class of the last of these. A mark does not reach the start beyond a mark of its own
or a higher class. -/
def composeFrom (start : Option Char) (kept : List Char) (last : Nat) : List Char → List Char
  | [] => start.toList ++ kept.reverse
  | c :: cs =>
    let k := combiningClass c
    let joined := if kept.isEmpty || last < k then start.bind fun s => composed? s c else none
    match joined with
    | some whole => composeFrom (some whole) kept last cs
    | none =>
      if k = 0 then start.toList ++ kept.reverse ++ composeFrom (some c) [] 0 cs
      else composeFrom start (c :: kept) k cs

def normalForm (s : List Char) : List Char :=
  composeFrom none [] 0 (orderMarks (s.flatMap (takeApart compositionDepth)))

end GovernanceIndex.Text
