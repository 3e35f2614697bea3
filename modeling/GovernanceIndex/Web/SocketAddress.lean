import GovernanceIndex.Web.InternetAddress

/-!
Socket addresses: an address of the Internet Protocol, version 4 or 6, and a port. The octets or
groups of an address are those that were read.
-/
namespace GovernanceIndex.Web

open InternetAddress

inductive SocketAddress where
  | v4 (octets : List Nat) (port : Nat)
  | v6 (groups : List Nat) (scope : Nat) (port : Nat)
  deriving DecidableEq, Repr

namespace SocketAddress

def readPort? (s : List Char) : Option Nat := do
  match ← readNumber? 10 65536 (← readMark? ':' s) with
  | (port, []) => some port
  | _ => none

def parse? (text : String) : Option SocketAddress :=
  match text.toList with
  | '[' :: s => do
    let (groups, s) ← readV6? s
    let (scope, s) :=
      match (readMark? '%' s).bind (readNumber? 10 4294967296) with
      | some (scope, s) => (scope, s)
      | none => (0, s)
    return .v6 groups scope (← readPort? (← readMark? ']' s))
  | s => do
    let (octets, s) ← readV4? s
    return .v4 octets (← readPort? s)

def render : SocketAddress → String
  | .v4 octets port => renderV4 octets ++ ":" ++ toString port
  | .v6 groups scope port =>
    "[" ++ renderV6 groups ++ (if scope = 0 then "" else "%" ++ toString scope) ++ "]:" ++
      toString port

end SocketAddress

end GovernanceIndex.Web
