import GovernanceIndex.Json.Value

/-!
Reading JSON text. The grammar is the strict one: no trailing commas, no leading zeros, no control
characters in strings, and nothing but blanks around the value.
-/
namespace GovernanceIndex.Json

def isBlank (c : Char) : Bool := c = ' ' || c = '\t' || c = '\n' || c = '\r'

def isDigit (c : Char) : Bool := 48 ≤ c.toNat && c.toNat ≤ 57

def hexDigit? (c : Char) : Option Nat :=
  let n := c.toNat
  if 48 ≤ n && n ≤ 57 then some (n - 48)
  else if 97 ≤ n && n ≤ 102 then some (n - 87)
  else if 65 ≤ n && n ≤ 70 then some (n - 55)
  else none

def hexUnit? (a b c d : Char) : Option Nat := do
  return (((← hexDigit? a) * 16 + (← hexDigit? b)) * 16 + (← hexDigit? c)) * 16 + (← hexDigit? d)

def isHighHalf (n : Nat) : Bool := 0xD800 ≤ n && n ≤ 0xDBFF

def isLowHalf (n : Nat) : Bool := 0xDC00 ≤ n && n ≤ 0xDFFF

/-- The character behind a backslash in a short escape. -/
def shortEscape? : Char → Option Char
  | '"' => some '"'
  | '\\' => some '\\'
  | '/' => some '/'
  | 'b' => some '\x08'
  | 'f' => some '\x0c'
  | 'n' => some '\n'
  | 'r' => some '\r'
  | 't' => some '\t'
  | _ => none

/-- What a string holds at one place: a character, half a pair, or its closing quote. -/
inductive Piece where
  | char (c : Char)
  | half
  | close

/-- Reads one piece of a string and leaves a shorter rest. -/
def readPiece? (s : List Char) : Option (Piece × { r : List Char // r.length < s.length }) :=
  match s with
  | [] => none
  | '"' :: r => some (.close, ⟨r, Nat.lt_succ_self _⟩)
  | '\\' :: 'u' :: a :: b :: c :: d :: r =>
    match hexUnit? a b c d with
    | none => none
    | some n =>
      if isHighHalf n then
        match r with
        | '\\' :: 'u' :: e :: f :: g :: h :: r' =>
          match hexUnit? e f g h with
          | some m =>
            if isLowHalf m then
              some (.char (Char.ofNat (0x10000 + (n - 0xD800) * 0x400 + (m - 0xDC00))),
                ⟨r', by simp only [List.length_cons]; omega⟩)
            else some (.half, ⟨'\\' :: 'u' :: e :: f :: g :: h :: r', by simp only [List.length_cons]; omega⟩)
          | none => none
        | r => some (.half, ⟨r, by simp only [List.length_cons]; omega⟩)
      else if isLowHalf n then some (.half, ⟨r, by simp only [List.length_cons]; omega⟩)
      else some (.char (Char.ofNat n), ⟨r, by simp only [List.length_cons]; omega⟩)
  | '\\' :: c :: r => (shortEscape? c).map fun e => (.char e, ⟨r, by simp only [List.length_cons]; omega⟩)
  | c :: r => if c.toNat < 0x20 || c = '\\' then none else some (.char c, ⟨r, Nat.lt_succ_self _⟩)

/-- Reads a string behind its opening quote; `chars` holds what was read, the last character
first, and is none once half a pair was met. -/
def readString? (chars : Option (List Char)) (s : List Char) :
    Option (Option String × List Char) :=
  match readPiece? s with
  | none => none
  | some (.close, ⟨r, _⟩) => some (chars.map fun cs => String.ofList cs.reverse, r)
  | some (.half, ⟨r, _⟩) => readString? none r
  | some (.char c, ⟨r, _⟩) => readString? (chars.map (c :: ·)) r
termination_by s.length

def digitsValue (cs : List Char) : Nat := cs.foldl (fun n c => 10 * n + (c.toNat - 48)) 0

/-- Reads the fraction of a number, if one follows; none if a point stands without digits. -/
def readFraction? : List Char → Option (Option (List Char) × List Char)
  | '.' :: r =>
    let digits := r.takeWhile isDigit
    if digits.isEmpty then none else some (some digits, r.dropWhile isDigit)
  | s => some (none, s)

/-- Reads the exponent of a number, if one follows. -/
def readExponent? : List Char → Option (Option Int × List Char)
  | c :: r =>
    if c = 'e' || c = 'E' then
      let (negative, r) := match r with
        | '-' :: r => (true, r)
        | '+' :: r => (false, r)
        | r => (false, r)
      let digits := r.takeWhile isDigit
      if digits.isEmpty then none
      else
        let n : Int := digitsValue digits
        some (some (if negative then -n else n), r.dropWhile isDigit)
    else some (none, c :: r)
  | [] => some (none, [])

/-- Appends digits to a number up to the first one that would make it 2^64 or more: the number, and
the digits from that one on. -/
def appendDigits : Nat → List Char → Nat × List Char
  | n, [] => (n, [])
  | n, c :: cs =>
    let m := 10 * n + (c.toNat - 48)
    if m < 18446744073709551616 then appendDigits m cs else (n, c :: cs)

/-- The decimal with the given digits before and behind its point. Its digits stay below 2^64: of
those before the point, the ones from the first that does not fit on only scale the number; those
behind the point are appended as long as they fit, and the rest of them does not count. -/
def decimal (negative : Bool) (whole places : List Char) (exponent : Int) : Decimal :=
  let (n, scaling) := appendDigits 0 whole
  let (digits, unread) := appendDigits n places
  ⟨negative, digits, exponent + scaling.length - (places.length - unread.length)⟩

/-- Reads a number. Without fraction and exponent it is an integer, unless it is a negative zero or
out of range. -/
def readNumber? (s : List Char) : Option (Json × List Char) := do
  let (negative, s) := match s with
    | '-' :: r => (true, r)
    | s => (false, s)
  let whole := s.takeWhile isDigit
  if whole.isEmpty || (whole.head? = some '0' && whole.length > 1) then none
  let (fraction, s) ← readFraction? (s.dropWhile isDigit)
  let (exponent, s) ← readExponent? s
  let n : Int := digitsValue whole
  let signed := if negative then -n else n
  if fraction.isNone && exponent.isNone && !(negative && n == 0) && decide (IsInteger signed) then
    return (.int signed, s)
  return (.float (decimal negative whole (fraction.getD []) (exponent.getD 0)), s)

/-- Drops a keyword from the front, if it stands there. -/
def keyword? (word : List Char) (s : List Char) : Option (List Char) :=
  if word.isPrefixOf s then some (s.drop word.length) else none

mutual

/-- Reads a value; `fuel` bounds the length of the text. -/
def readValue? : (fuel : Nat) → List Char → Option (Json × List Char)
  | 0, _ => none
  | fuel + 1, s =>
    match s.dropWhile isBlank with
    | '"' :: r => (readString? (some []) r).map fun (t, r) => (.text t, r)
    | '[' :: r =>
      match r.dropWhile isBlank with
      | ']' :: r => some (.list [], r)
      | r => (readItems? fuel r).map fun (xs, r) => (.list xs, r)
    | '\x7b' :: r =>
      match r.dropWhile isBlank with
      | '\x7d' :: r => some (.object [], r)
      | r => (readFields? fuel r).map fun (fs, r) => (.object fs, r)
    | 'n' :: r => (keyword? ['u', 'l', 'l'] r).map fun r => (.null, r)
    | 't' :: r => (keyword? ['r', 'u', 'e'] r).map fun r => (.bool true, r)
    | 'f' :: r => (keyword? ['a', 'l', 's', 'e'] r).map fun r => (.bool false, r)
    | r => readNumber? r

/-- Reads the items of a list up to its closing bracket. -/
def readItems? : (fuel : Nat) → List Char → Option (List Json × List Char)
  | 0, _ => none
  | fuel + 1, s => do
    let (x, s) ← readValue? fuel s
    match s.dropWhile isBlank with
    | ',' :: r =>
      let (xs, r) ← readItems? fuel r
      return (x :: xs, r)
    | ']' :: r => return ([x], r)
    | _ => none

/-- Reads the fields of an object up to its closing brace. -/
def readFields? : (fuel : Nat) → List Char → Option (List (Option String × Json) × List Char)
  | 0, _ => none
  | fuel + 1, s =>
    match s.dropWhile isBlank with
    | '"' :: r => do
      let (name, r) ← readString? (some []) r
      match r.dropWhile isBlank with
      | ':' :: r =>
        let (x, r) ← readValue? fuel r
        match r.dropWhile isBlank with
        | ',' :: r =>
          let (fs, r) ← readFields? fuel r
          return ((name, x) :: fs, r)
        | '\x7d' :: r => return ([(name, x)], r)
        | _ => none
      | _ => none
    | _ => none

end

def parse? (text : String) : Option Json :=
  let s := text.toList
  match readValue? (s.length + 1) s with
  | some (x, r) => if r.all isBlank then some x else none
  | none => none

end GovernanceIndex.Json
