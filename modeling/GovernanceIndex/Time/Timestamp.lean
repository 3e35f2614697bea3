import GovernanceIndex.Text.Blank
import GovernanceIndex.Time.Duration

/-!
Points in time in UTC, with nanoseconds, and their RFC 3339 text. The second of a leap second is
the second before it with nanoseconds beyond a whole second.

The reader accepts blanks between the components and at the end, a signed year of any length, a
lower-case or missing separator, and every numeric offset of less than a day.
-/
namespace GovernanceIndex

/-- A point in time: seconds since the start of 1970, and nanoseconds. -/
structure Timestamp where
  seconds : Int
  nanos : Nat
  deriving DecidableEq, Repr

namespace Timestamp

def before (a b : Timestamp) : Bool :=
  decide (a.seconds < b.seconds ∨ a.seconds = b.seconds ∧ a.nanos < b.nanos)

/-- A day of the proleptic Gregorian calendar. -/
structure Date where
  year : Int
  month : Nat
  day : Nat
  deriving DecidableEq, Repr

def isLeapYear (y : Int) : Bool := y % 4 = 0 && (y % 100 ≠ 0 || y % 400 = 0)

def daysInMonth (y : Int) (m : Nat) : Nat :=
  if m = 2 then (if isLeapYear y then 29 else 28)
  else if m = 4 || m = 6 || m = 9 || m = 11 then 30 else 31

def Date.toDays (d : Date) : Int :=
  let y := if d.month ≤ 2 then d.year - 1 else d.year
  let era := y / 400
  let yearOfEra := y - era * 400
  let dayOfYear : Int := (153 * (((d.month + 9) % 12 : Nat) : Int) + 2) / 5 + d.day - 1
  let dayOfEra := yearOfEra * 365 + yearOfEra / 4 - yearOfEra / 100 + dayOfYear
  era * 146097 + dayOfEra - 719468

def Date.ofDays (days : Int) : Date :=
  let z := days + 719468
  let era := z / 146097
  let doe := z - era * 146097
  let yoe := (doe - doe / 1460 + doe / 36524 - doe / 146096) / 365
  let doy := doe - (365 * yoe + yoe / 4 - yoe / 100)
  let mp := (5 * doy + 2) / 153
  let day := (doy - (153 * mp + 2) / 5 + 1).toNat
  let month := (if mp < 10 then mp + 3 else mp - 9).toNat
  ⟨yoe + era * 400 + (if month ≤ 2 then 1 else 0), month, day⟩

def yearInRange (y : Int) : Bool := decide (-262143 ≤ y) && decide (y ≤ 262142)

/-- The first second that is no point in time any more. -/
def endSeconds : Int := Date.toDays ⟨262143, 1, 1⟩ * 86400

/-- The first second that is a point in time. -/
def startSeconds : Int := Date.toDays ⟨-262143, 1, 1⟩ * 86400

/-- A point moved into the future, if that is a point in time. A leap second is left as soon as
a whole second passes. -/
def add? (t : Timestamp) (d : Duration) : Option Timestamp :=
  let leap := nanosPerSecond ≤ t.nanos
  if leap ∧ d.secs = 0 ∧ t.nanos + d.subsecNanos < 2 * nanosPerSecond then
    some ⟨t.seconds, t.nanos + d.subsecNanos⟩
  else
    let nanos := (if leap then t.nanos - nanosPerSecond else t.nanos) + d.subsecNanos
    let seconds := t.seconds + d.secs + (nanos / nanosPerSecond : Nat)
    if seconds < endSeconds then some ⟨seconds, nanos % nanosPerSecond⟩ else none

def padded (width n : Nat) : List Char :=
  let digits := Nat.toDigits 10 n
  List.replicate (width - digits.length) '0' ++ digits

/-- A year: four digits, or a sign and at least four digits outside of 0 to 9999. -/
def renderYear (y : Int) : List Char :=
  if 0 ≤ y ∧ y ≤ 9999 then padded 4 y.toNat
  else (if y < 0 then '-' else '+') :: padded 4 y.natAbs

/-- The fraction of a second in the fewest of 0, 3, 6 or 9 digits. -/
def renderFraction (nanos : Nat) : List Char :=
  if nanos = 0 then []
  else if nanos % 1000000 = 0 then '.' :: padded 3 (nanos / 1000000)
  else if nanos % 1000 = 0 then '.' :: padded 6 (nanos / 1000)
  else '.' :: padded 9 nanos

def render (t : Timestamp) : String :=
  let date := Date.ofDays (t.seconds / 86400)
  let second := (t.seconds % 86400).toNat
  let leap := nanosPerSecond ≤ t.nanos
  String.ofList (renderYear date.year ++ '-' :: padded 2 date.month ++ '-' :: padded 2 date.day ++
    'T' :: padded 2 (second / 3600) ++ ':' :: padded 2 (second / 60 % 60) ++
    ':' :: padded 2 (second % 60 + if leap then 1 else 0) ++
    renderFraction (if leap then t.nanos - nanosPerSecond else t.nanos) ++ ['Z'])

def isDigit (c : Char) : Bool := 48 ≤ c.toNat && c.toNat ≤ 57

def digitsValue (cs : List Char) : Nat := cs.foldl (fun n c => 10 * n + (c.toNat - 48)) 0

def readNumber? (width : Nat) (s : List Char) : Option (Nat × List Char) :=
  let digits := (s.take width).takeWhile isDigit
  if digits = [] then none else some (digitsValue digits, s.drop digits.length)

def readLong? (s : List Char) : Option (Nat × List Char) :=
  let digits := s.takeWhile isDigit
  if digits = [] then none else some (digitsValue digits, s.dropWhile isDigit)

def skipBlanks (s : List Char) : List Char := s.dropWhile Text.isBlank

/-- Reads one character, blanks before it aside. -/
def readMark? (mark : Char) (s : List Char) : Option (List Char) :=
  match skipBlanks s with
  | c :: r => if c = mark then some r else none
  | [] => none

def readYear? (s : List Char) : Option (Int × List Char) :=
  match skipBlanks s with
  | '-' :: r => (readLong? r).map fun (n, r) => (-(n : Int), r)
  | '+' :: r => (readLong? r).map fun (n, r) => ((n : Int), r)
  | s => (readNumber? 4 s).map fun (n, r) => ((n : Int), r)

def readDate? (s : List Char) : Option (Date × List Char) := do
  let (year, s) ← readYear? s
  let s ← readMark? '-' s
  let (month, s) ← readNumber? 2 (skipBlanks s)
  let s ← readMark? '-' s
  let (day, s) ← readNumber? 2 (skipBlanks s)
  if yearInRange year && 1 ≤ month && month ≤ 12 && 1 ≤ day && day ≤ daysInMonth year month then
    return (⟨year, month, day⟩, s)
  else none

/-- Reads the fraction of a second, if one follows; digits beyond the ninth do not count. -/
def readFraction? : List Char → Option (Nat × List Char)
  | '.' :: r => do
    let (n, rest) ← readNumber? 9 r
    return (n * Nat.pow 10 (9 - (r.length - rest.length)), rest.dropWhile isDigit)
  | s => some (0, s)

/-- Reads a time of day as its second and nanoseconds. -/
def readTime? (s : List Char) : Option (Nat × Nat × List Char) := do
  let (hour, s) ← readNumber? 2 (skipBlanks s)
  let s ← readMark? ':' s
  let (minute, s) ← readNumber? 2 (skipBlanks s)
  let s ← readMark? ':' s
  let (second, s) ← readNumber? 2 (skipBlanks s)
  let (nanos, s) ← readFraction? s
  if hour ≤ 23 && minute ≤ 59 && second ≤ 60 then
    if second = 60 then return (hour * 3600 + minute * 60 + 59, nanos + nanosPerSecond, s)
    else return (hour * 3600 + minute * 60 + second, nanos, s)
  else none

def readOffset? (s : List Char) : Option (Int × List Char) := do
  match s with
  | [] => none
  | c :: r =>
    if c = 'Z' || c = 'z' then return (0, r)
    else if (s.take 3).map Char.toLower = ['u', 't', 'c'] then return (0, s.drop 3)
    else
      let sign : Int ← if c = '+' then some 1
        else if c = '-' || c.toNat = 0x2212 then some (-1) else none
      match r with
      | a :: b :: r =>
        match r.dropWhile fun c => c = ':' || Text.isBlank c with
        | x :: y :: r =>
          if isDigit a && isDigit b && isDigit x && isDigit y && digitsValue [x, y] ≤ 59 then
            let seconds := digitsValue [a, b] * 3600 + digitsValue [x, y] * 60
            if seconds < 86400 then return (sign * seconds, r) else none
          else none
        | _ => none
      | _ => none

def parse? (text : String) : Option Timestamp := do
  let (date, s) ← readDate? text.toList
  let s ← match s with
    | c :: r => if c = 'T' || c = 't' || c = ' ' then some r else none
    | [] => none
  let (second, nanos, s) ← readTime? s
  let (offset, s) ← readOffset? (skipBlanks s)
  if skipBlanks s = [] then
    let seconds := date.toDays * 86400 + second - offset
    if startSeconds ≤ seconds ∧ seconds < endSeconds then return ⟨seconds, nanos⟩ else none
  else none

def encode (t : Timestamp) : Json := .str t.render

def decode (x : Json) : Decoded Timestamp := do
  match parse? (← x.decodeText) with
  | some t => return t
  | none => throw .shape

end Timestamp

end GovernanceIndex
