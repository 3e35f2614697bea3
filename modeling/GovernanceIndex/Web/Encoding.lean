import GovernanceIndex.Text.Split
import GovernanceIndex.Text.Utf8

/-!
Percent encoding: bytes of the UTF-8 form of a text as `%` and two hexadecimal digits. Each part of
an address has its own characters that stand for themselves.
-/
namespace GovernanceIndex.Web

open Text

def isAlphanumeric (c : Char) : Bool := c.isAlpha || c.isDigit

/-- The ASCII characters other than controls and the space. -/
def isPrintable (c : Char) : Bool := decide (0x20 < c.toNat) && decide (c.toNat < 0x7F)

/-- Characters that stand for themselves in a host name without a structure and in a path without
segments. -/
def inOpaque (c : Char) : Bool := isPrintable c || c = ' '

def inFragment (c : Char) : Bool :=
  isPrintable c && c ≠ '"' && c ≠ '<' && c ≠ '>' && c ≠ '\x60'

def inPath (c : Char) : Bool :=
  inFragment c && c ≠ '#' && c ≠ '?' && c ≠ '\x7b' && c ≠ '\x7d'

/-- Characters that stand for themselves in a user name and a password. -/
def inUserInfo (c : Char) : Bool :=
  inPath c && c ≠ '/' && c ≠ ':' && c ≠ ';' && c ≠ '=' && c ≠ '@' && c ≠ '[' && c ≠ '\\' &&
    c ≠ ']' && c ≠ '^' && c ≠ '|'

/-- Characters that stand for themselves in a query; a single quote does so only where the scheme
is none that browsers know. -/
def inQuery (special : Bool) (c : Char) : Bool :=
  isPrintable c && c ≠ '"' && c ≠ '#' && c ≠ '<' && c ≠ '>' && !(special && c = '\'')

def hexDigit (n : Nat) : Char := if n < 10 then Char.ofNat (48 + n) else Char.ofNat (55 + n)

def encodeByte (b : UInt8) : List Char := ['%', hexDigit (b.toNat / 16), hexDigit (b.toNat % 16)]

/-- Encodes the characters that are not to stand for themselves. -/
def encodeUnless (plain : Char → Bool) (s : List Char) : List Char :=
  s.flatMap fun c => if plain c then [c] else (Utf8.encodeChar c).flatMap encodeByte

/-- Encodes a name or a value of a form; a space becomes a plus sign. -/
def encodeForm (s : String) : String :=
  String.ofList (s.toList.flatMap fun c =>
    if isAlphanumeric c || c = '*' || c = '-' || c = '.' || c = '_' then [c]
    else if c = ' ' then ['+']
    else (Utf8.encodeChar c).flatMap encodeByte)

def encodePairs (pairs : List (String × String)) : String :=
  "&".intercalate (pairs.map fun p => encodeForm p.1 ++ "=" ++ encodeForm p.2)

def hexValue? (c : Char) : Option Nat :=
  let n := c.toNat
  if 48 ≤ n && n ≤ 57 then some (n - 48)
  else if 97 ≤ n && n ≤ 102 then some (n - 87)
  else if 65 ≤ n && n ≤ 70 then some (n - 55)
  else none

/-- The bytes of a text whose encoded bytes are decoded; a `%` without two digits behind it stands
for itself. -/
def decodeBytes : List Char → List UInt8
  | [] => []
  | [c] => Utf8.encodeChar c
  | [c, d] => Utf8.encodeChar c ++ Utf8.encodeChar d
  | '%' :: a :: b :: r =>
    match hexValue? a, hexValue? b with
    | some x, some y => UInt8.ofNat (16 * x + y) :: decodeBytes r
    | _, _ => Utf8.encodeChar '%' ++ decodeBytes (a :: b :: r)
  | c :: r => Utf8.encodeChar c ++ decodeBytes r

/-- Decodes a text; a fault if its bytes are no UTF-8 text. -/
def decode (s : String) : Except Utf8.Fault String :=
  (Utf8.decode (decodeBytes s.toList)).map String.ofList

/-- Decodes a name or a value of a form, where a plus sign stands for a space; faulty bytes are
replaced. -/
def decodeForm (s : List Char) : String :=
  let spaced := s.map fun c => if c = '+' then ' ' else c
  String.ofList (Utf8.decodeLossy (decodeBytes spaced))

/-- Decodes the pairs of a form. Pairs are separated by ampersands, empty ones passed over; a pair
without an equals sign has the empty value. -/
def decodePairs (s : String) : List (String × String) :=
  ((Text.split (· = '&') s.toList).filter (· ≠ [])).map fun pair =>
    let (name, value) := Text.cut '=' pair
    (decodeForm name, decodeForm (value.getD []))

end GovernanceIndex.Web
