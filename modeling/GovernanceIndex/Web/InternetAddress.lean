/-!
Addresses of the Internet Protocol. An address of version 4 is four octets; one of version 6 is
eight groups, written with the longest run of zero groups left out.
-/
namespace GovernanceIndex.Web.InternetAddress

/-- The value of a digit in a base up to sixteen. -/
def digit? (base : Nat) (c : Char) : Option Nat :=
  let n := c.toNat
  let value :=
    if 48 ≤ n ∧ n ≤ 57 then n - 48
    else if 97 ≤ n ∧ n ≤ 102 then n - 87
    else if 65 ≤ n ∧ n ≤ 70 then n - 55
    else 16
  if value < base then some value else none

/-- Reads a number in a base, of at least one digit and below the bound. -/
def readNumber? (base bound : Nat) (s : List Char) : Option (Nat × List Char) :=
  let digits := s.takeWhile fun c => (digit? base c).isSome
  let value := digits.foldl (fun n c => base * n + (digit? base c).getD 0) 0
  if digits ≠ [] ∧ value < bound then some (value, s.drop digits.length) else none

/-- Reads a number of at most so many digits. -/
def readShort? (base bound width : Nat) (s : List Char) : Option (Nat × List Char) :=
  if (s.takeWhile fun c => (digit? base c).isSome).length ≤ width then readNumber? base bound s
  else none

/-- Reads an octet, which has no leading zero. -/
def readOctet? (s : List Char) : Option (Nat × List Char) :=
  match s with
  | '0' :: c :: _ => if c.isDigit then none else readShort? 10 256 3 s
  | _ => readShort? 10 256 3 s

def readMark? (mark : Char) : List Char → Option (List Char)
  | c :: r => if c = mark then some r else none
  | [] => none

def readV4? (s : List Char) : Option (List Nat × List Char) := do
  let (a, s) ← readOctet? s
  let (b, s) ← readOctet? (← readMark? '.' s)
  let (c, s) ← readOctet? (← readMark? '.' s)
  let (d, s) ← readOctet? (← readMark? '.' s)
  return ([a, b, c, d], s)

/-- Reads groups with colons between them, at most so many; the last two may be written as an
address of version 4, which ends the groups with the flag set. -/
def readGroups : (room : Nat) → (first : Bool) → List Char → List Nat × Bool × List Char
  | 0, _, s => ([], false, s)
  | room + 1, first, s =>
    let start := if first then some s else readMark? ':' s
    let embedded := if room = 0 then none else start.bind readV4?
    match embedded, start.bind (readShort? 16 65536 4) with
    | some ([a, b, c, d], s), _ => ([256 * a + b, 256 * c + d], true, s)
    | _, some (group, s) =>
      let (groups, isV4, s) := readGroups room false s
      (group :: groups, isV4, s)
    | _, none => ([], false, s)

def readV6? (s : List Char) : Option (List Nat × List Char) :=
  let (head, isV4, s) := readGroups 8 true s
  if head.length = 8 then some (head, s)
  else if isV4 then none
  else do
    let s ← readMark? ':' (← readMark? ':' s)
    let (tail, _, s) := readGroups (7 - head.length) true s
    return (head ++ List.replicate (8 - head.length - tail.length) 0 ++ tail, s)

def isAddress (text : String) : Bool :=
  let s := text.toList
  match readV4? s with
  | some (_, rest) => rest.isEmpty
  | none => (readV6? s).any fun r => r.2.isEmpty

def renderV4 (octets : List Nat) : String := ".".intercalate (octets.map toString)

/-- The groups in hexadecimal digits with colons between them. -/
def renderGroups (groups : List Nat) : String :=
  ":".intercalate (groups.map fun g => String.ofList (Nat.toDigits 16 g))

/-- The length of the run of zeros that starts a list. -/
def zeros (groups : List Nat) : Nat := (groups.takeWhile (· = 0)).length

/-- The start and the length of the longest run of zeros, the first one of equally long ones. -/
def longestRun (groups : List Nat) : Nat × Nat :=
  (List.range groups.length).foldl (fun best i =>
    let n := zeros (groups.drop i)
    if best.2 < n then (i, n) else best) (0, 0)

def renderV6Groups (groups : List Nat) : String :=
  let (start, length) := longestRun groups
  if 1 < length then
    renderGroups (groups.take start) ++ "::" ++ renderGroups (groups.drop (start + length))
  else renderGroups groups

/-- An address of version 6; one that stands for an address of version 4 shows that one. -/
def renderV6 (groups : List Nat) : String :=
  match groups with
  | [0, 0, 0, 0, 0, 0xFFFF, a, b] =>
    "::ffff:" ++ renderV4 [a / 256, a % 256, b / 256, b % 256]
  | _ => renderV6Groups groups

end GovernanceIndex.Web.InternetAddress
