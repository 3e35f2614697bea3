import GovernanceIndex.Text.Split

/-!
Targets of requests: a path with or without a query, an address with a scheme, a bare authority, or
an asterisk. A fragment does not count.
-/
namespace GovernanceIndex.Web.RequestTarget

def maxLength : Nat := 65534

/-- The characters of an authority beside the percent sign. -/
def inAuthority (c : Char) : Bool :=
  c.isAlphanum || "!$&'()*+,-.:;=@[]_~".toList.contains c

/-- What was met of an authority: the colons and whether there was a percent sign, both since the
last `@` or closing bracket, and the brackets. -/
structure Scan where
  colons : Nat := 0
  percent : Bool := false
  opened : Bool := false
  closed : Bool := false
  deriving DecidableEq, Repr

def maxColons : Nat := 8

/-- Goes on to the next character of an authority. -/
def Scan.step (s : Scan) (c : Char) : Option Scan :=
  if c = ':' then if s.colons < maxColons then some { s with colons := s.colons + 1 } else none
  else if c = '[' then if s.percent || s.opened then none else some { s with opened := true }
  else if c = ']' then
    if s.opened && !s.closed then some { s with closed := true, colons := 0, percent := false }
    else none
  else if c = '@' then some { s with colons := 0, percent := false }
  else if c = '%' then some { s with percent := true }
  else if inAuthority c then some s
  else none

/-- Whether a text is an authority, which may be empty. Brackets are paired, at most one colon
stands behind them, and a percent sign only in front of an `@`, which does not end the text. -/
def isAuthority (s : List Char) : Bool :=
  match s.foldlM Scan.step ({} : Scan) with
  | some r => r.opened == r.closed && decide (r.colons ≤ 1) && !r.percent && s.getLast? ≠ some '@'
  | none => false

def inPath (c : Char) : Bool :=
  decide (0x20 < c.toNat) && c ≠ '#' && c ≠ '<' && c ≠ '>' && c ≠ '?' && c ≠ '\x60'

def inQuery (c : Char) : Bool :=
  decide (0x20 < c.toNat) && c ≠ '"' && c ≠ '#' && c ≠ '<' && c ≠ '>'

/-- The path of a text that starts with one, which may be empty. -/
def readPath? (s : List Char) : Option (List Char) :=
  let (path, query) := Text.cut '?' (Text.cut '#' s).1
  if path.all inPath && (query.getD []).all inQuery then some path else none

def inScheme (c : Char) : Bool := c.isAlphanum || c = '+' || c = '-' || c = '.' || c = '~'

def maxScheme : Nat := 64

/-- The part of a target behind its scheme and two slashes, if it has a scheme. -/
def behindScheme? (s : List Char) : Option (List Char) :=
  match s.dropWhile inScheme with
  | ':' :: '/' :: '/' :: rest => some rest
  | _ => none

/-- The path of an address behind its scheme; an empty path is a slash. -/
def readAddress? (s : List Char) : Option (List Char) :=
  let authority := s.takeWhile fun c => c ≠ '/' && c ≠ '?' && c ≠ '#'
  if authority ≠ [] && isAuthority authority then
    (readPath? (s.drop authority.length)).map fun path => if path = [] then ['/'] else path
  else none

/-- The path of a target, which a bare authority lacks; none if the text is no target. -/
def path? (text : String) : Option String :=
  let s := text.toList
  if text.utf8ByteSize > maxLength then none
  else
    String.ofList <$> match s with
    | [] => none
    | ['*'] => some ['*']
    | '/' :: _ => readPath? s
    | _ =>
      match behindScheme? s with
      | some rest =>
        if (s.takeWhile inScheme).length ≤ maxScheme then readAddress? rest else none
      | none => if isAuthority s then some [] else none

end GovernanceIndex.Web.RequestTarget
