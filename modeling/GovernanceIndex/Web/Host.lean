import GovernanceIndex.Web.Encoding
import GovernanceIndex.Web.HostName
import GovernanceIndex.Web.InternetAddress

/-!
Hosts of addresses. Where names are resolved, a host is a name in ASCII form, an address of
version 4 if its last label is a number, or an address of version 6 in brackets. Elsewhere, a host
without brackets is any text without separators.
-/
namespace GovernanceIndex.Web

inductive Host where
  | name (text : String)
  | v4 (octets : List Nat)
  | v6 (groups : List Nat)
  deriving DecidableEq, Repr

namespace Host

inductive Fault where
  | empty
  | name
  | character
  | v4
  | v6
  deriving DecidableEq, Repr

def Fault.message : Fault → String
  | .empty => "empty host"
  | .name => "invalid international domain name"
  | .character => "invalid domain character"
  | .v4 => "invalid IPv4 address"
  | .v6 => "invalid IPv6 address"

/-- Reads a number to base 16 behind `0x`, to base 8 behind another zero, and to base 10 otherwise;
without digits it is zero. None if it is no number. -/
def readNumber? (s : List Char) : Option Nat :=
  let (base, digits) := match s with
    | '0' :: 'x' :: r | '0' :: 'X' :: r => (16, r)
    | '0' :: c :: r => (8, c :: r)
    | s => (10, s)
  if s ≠ [] ∧ digits.all (fun c => (InternetAddress.digit? base c).isSome) then
    some (digits.foldl (fun n c => base * n + (InternetAddress.digit? base c).getD 0) 0)
  else none

/-- The labels of a name; a point at its end does not count. -/
def labels (s : List Char) : List (List Char) :=
  let parts := Text.split (· = '.') s
  if parts.getLast? = some [] && 1 < parts.length then parts.dropLast else parts

def endsInNumber (s : List Char) : Bool :=
  match (labels s).getLast? with
  | none | some [] => false
  | some last => last.all (fun c => c.isDigit) || (readNumber? last).isSome

/-- The octets of a number below 256 to some power, that power many. -/
def octets : (count n : Nat) → List Nat
  | 0, _ => []
  | count + 1, n => octets count (n / 256) ++ [n % 256]

/-- Reads an address of at most four numbers. All but the last are octets; the last fills up the
octets that are left. -/
def readV4? (s : List Char) : Option (List Nat) := do
  let numbers ← (labels s).mapM readNumber?
  let last ← numbers.getLast?
  let front := numbers.dropLast
  if front.length ≤ 3 ∧ front.all (fun n => n < 256) ∧ last < Nat.pow 256 (4 - front.length) then
    return front ++ octets (4 - front.length) last
  else none

def readBracketed (s : List Char) : Except Fault Host :=
  match s.reverse with
  | ']' :: inside =>
    match InternetAddress.readV6? (inside.reverse.drop 1) with
    | some (groups, []) => .ok (.v6 groups)
    | _ => .error .v6
  | _ => .error .v6

def ofText (s : List Char) : Except Fault Host :=
  match s with
  | '[' :: _ => readBracketed s
  | _ =>
    match HostName.toAscii? (decodeBytes s) with
    | none => .error .name
    | some [] => .error .empty
    | some ascii =>
      if endsInNumber ascii then ((readV4? ascii).map fun o => .ok (.v4 o)).getD (.error .v4)
      else .ok (.name (String.ofList ascii))

def isSeparator (c : Char) : Bool :=
  c.toNat = 0 || c = '\t' || c = '\n' || c = '\r' || c = ' ' || c = '#' || c = '/' || c = ':' ||
    c = '<' || c = '>' || c = '?' || c = '@' || c = '[' || c = '\\' || c = ']' || c = '^' || c = '|'

/-- Reads a host whose name is not resolved, and may be empty. -/
def ofOpaque (s : List Char) : Except Fault Host :=
  match s with
  | '[' :: _ => readBracketed s
  | _ =>
    if s.any isSeparator then .error .character
    else .ok (.name (String.ofList (encodeUnless inOpaque s)))

def isEmpty (h : Host) : Bool := h = .name ""

def render : Host → String
  | .name text => text
  | .v4 octets => InternetAddress.renderV4 octets
  | .v6 groups => "[" ++ InternetAddress.renderV6Groups groups ++ "]"

end Host

end GovernanceIndex.Web
