import GovernanceIndex.Text.Split

/-!
Texts in ASCII letters, digits and hyphens. The ASCII characters stand first, with a hyphen behind
them; the others follow in the order of their code points, each as the distance from the one before
it, counted over all places where it could stand. A distance is a number of digits to base 36 with
thresholds, which adapt to the distances so far.
-/
namespace GovernanceIndex.Text.Punycode

/-- The digit of a value: a letter, or a decimal digit from 26 on. -/
def digit (d : Nat) : Char := Char.ofNat (if d < 26 then 97 + d else 22 + d)

def digitValue? (c : Char) : Option Nat :=
  let n := c.toNat
  if 97 ≤ n && n ≤ 122 then some (n - 97)
  else if 65 ≤ n && n ≤ 90 then some (n - 65)
  else if 48 ≤ n && n ≤ 57 then some (n - 22)
  else none

/-- The threshold of the digit at a place; places count by 36. A smaller digit ends the number. -/
def threshold (place bias : Nat) : Nat :=
  if place ≤ bias then 1 else if bias + 26 ≤ place then 26 else place - bias

/-- Divides a distance until it is small, and counts the divisions by 36. -/
def adaptFrom : (fuel distance k : Nat) → Nat × Nat
  | 0, distance, k => (distance, k)
  | fuel + 1, distance, k =>
    if 455 < distance then adaptFrom fuel (distance / 35) (k + 36) else (distance, k)

/-- The bias behind a distance, when so many characters are known. -/
def adapt (distance known : Nat) (first : Bool) : Nat :=
  let scaled := if first then distance / 700 else distance / 2
  let spread := scaled + scaled / known
  let (rest, k) := adaptFrom spread spread 0
  k + 36 * rest / (rest + 38)

/-- The digits of a distance; `fuel` bounds their number. -/
def writeDistance (bias : Nat) : (fuel place distance : Nat) → List Char
  | 0, _, _ => []
  | fuel + 1, place, distance =>
    let t := threshold place bias
    if distance < t then [digit distance]
    else
      let q := distance - t
      digit (t + q % (36 - t)) :: writeDistance bias fuel (place + 36) (q / (36 - t))

/-- What is known while a text is written: the digits so far, the distance so far, the bias, and
how many characters have been written. -/
structure Writing where
  digits : List Char
  distance : Nat
  bias : Nat
  written : Nat

/-- Passes a character of the text when the characters of a code point are written and so many
characters were ASCII. -/
def Writing.pass (ascii code : Nat) (w : Writing) (c : Char) : Writing :=
  if c.toNat < code then { w with distance := w.distance + 1 }
  else if c.toNat = code then
    { digits := w.digits ++ writeDistance w.bias (w.distance + 1) 36 w.distance
      distance := 0
      bias := adapt w.distance (w.written + 1) (w.written == ascii)
      written := w.written + 1 }
  else w

/-- Writes the characters of the given code points, from `next` on. -/
def writeCodes (s : List Char) (ascii : Nat) : (codes : List Nat) → (next : Nat) → Writing → Writing
  | [], _, w => w
  | code :: codes, next, w =>
    let w := { w with distance := w.distance + (code - next) * (w.written + 1) }
    let w := s.foldl (Writing.pass ascii code) w
    writeCodes s ascii codes (code + 1) { w with distance := w.distance + 1 }

def encode (s : List Char) : List Char :=
  let ascii := s.filter fun c => decide (c.toNat < 128)
  let codes := ((s.filter fun c => decide (128 ≤ c.toNat)).map Char.toNat).mergeSort.eraseReps
  let start : Writing := ⟨[], 0, 72, ascii.length⟩
  ascii ++ (if ascii.isEmpty then [] else ['-']) ++
    (writeCodes s ascii.length codes 128 start).digits

/-- Reads a distance behind `value`: the sum, and the text behind it. -/
def readDistance? (bias : Nat) : (place weight value : Nat) → List Char → Option (Nat × List Char)
  | _, _, _, [] => none
  | place, weight, value, c :: rest =>
    match digitValue? c with
    | none => none
    | some d =>
      let t := threshold place bias
      if d < t then some (value + d * weight, rest)
      else readDistance? bias (place + 36) (weight * (36 - t)) (value + d * weight) rest

/-- Reads characters and puts them at their places in the text known so far; `fuel` bounds their
number. -/
def readFrom? : (fuel bias code place : Nat) → (known : List Char) → List Char → Option (List Char)
  | _, _, _, _, known, [] => some known
  | 0, _, _, _, _, _ => none
  | fuel + 1, bias, code, place, known, s =>
    match readDistance? bias 36 1 place s with
    | none => none
    | some (value, rest) =>
      let room := known.length + 1
      let code := code + value / room
      let at' := value % room
      if code < 0xD800 || (0xDFFF < code && code < 0x110000) then
        readFrom? fuel (adapt (value - place) room (place == 0)) code (at' + 1)
          (known.take at' ++ Char.ofNat code :: known.drop at') rest
      else none

/-- The text of an encoded form in ASCII characters. -/
def decode? (s : List Char) : Option (List Char) :=
  let digits := (s.reverse.takeWhile (· ≠ '-')).reverse
  let known := s.take (s.length - digits.length - 1)
  readFrom? (digits.length + 1) 72 128 0 known digits

end GovernanceIndex.Text.Punycode
