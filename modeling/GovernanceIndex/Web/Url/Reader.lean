import GovernanceIndex.Web.Url
import GovernanceIndex.Web.Url.Path

/-!
Reading addresses. Blanks and controls around an address and line breaks and tabs in it do not
count. The schemes of the web have hosts whose names are resolved, and a backslash is a slash to
them; a file has a host only if it is not this one. An address with another scheme may have a host,
or a path without segments.
-/
namespace GovernanceIndex.Web.Url

inductive Fault where
  | noScheme
  | host (fault : Host.Fault)
  | port
  deriving DecidableEq, Repr

def Fault.message : Fault → String
  | .noScheme => "relative URL without a base"
  | .host fault => fault.message
  | .port => "invalid port number"

/-- The schemes of the web with the ports that they imply. -/
def impliedPorts : List (String × Nat) :=
  [("http", 80), ("https", 443), ("ws", 80), ("wss", 443), ("ftp", 21)]

/-- How the part behind the scheme is read. -/
inductive Syntax where
  | web
  | file
  | other
  deriving DecidableEq, Repr

namespace Syntax

def ofScheme (scheme : String) : Syntax :=
  if scheme = "file" then .file
  else if (impliedPorts.lookup scheme).isSome then .web
  else .other

def isSlash (x : Syntax) (c : Char) : Bool := c = '/' || (c = '\\' && x ≠ .other)

/-- The segments of a path; a slash at its start does not count. -/
def segments (x : Syntax) (path : List Char) : List (List Char) :=
  Text.split x.isSlash <| match path with
    | c :: r => if x.isSlash c then r else c :: r
    | [] => []

end Syntax

def isEdge (c : Char) : Bool := decide (c.toNat ≤ 0x20)

/-- The characters that count in the text of an address. -/
def significant (s : List Char) : List Char :=
  (((s.dropWhile isEdge).reverse.dropWhile isEdge).reverse).filter fun c =>
    c ≠ '\t' && c ≠ '\n' && c ≠ '\r'

/-- Reads a scheme in lower case and the colon behind it. -/
def readScheme? (s : List Char) : Option (String × List Char) :=
  let isPart (c : Char) : Bool := c.isAlphanum || c = '+' || c = '-' || c = '.'
  match s.head?, s.dropWhile isPart with
  | some first, ':' :: rest =>
    if first.isAlpha then some (String.ofList ((s.takeWhile isPart).map Char.toLower), rest)
    else none
  | _, _ => none

structure User where
  name : String := ""
  password : Option String := none
  deriving DecidableEq, Repr

/-- Reads user name and password, which the first colon parts; an empty password is none. -/
def readUser (s : List Char) : User :=
  let (name, password) := Text.cut ':' s
  let encoded (t : List Char) : String := String.ofList (encodeUnless inUserInfo t)
  ⟨encoded name, (password.filter (· ≠ [])).map encoded⟩

/-- Parts an authority at its last `@`, if it has one. -/
def cutUser (authority : List Char) : Option (List Char) × List Char :=
  let host := (authority.reverse.takeWhile (· ≠ '@')).reverse
  if host.length = authority.length then (none, authority)
  else (some (authority.take (authority.length - host.length - 1)), host)

/-- Parts a host from what follows the first colon outside of brackets. -/
def cutHost : (bracketed : Bool) → List Char → List Char × Option (List Char)
  | _, [] => ([], none)
  | bracketed, c :: r =>
    if c = ':' && !bracketed then ([], some r)
    else
      let (host, port) := cutHost (if c = '[' then true else if c = ']' then false else bracketed) r
      (c :: host, port)

/-- Reads a port, which may be left out, and what follows it behind a backslash. -/
def readPort (s : List Char) : Except Fault (Option Nat × List Char) :=
  let digits := s.takeWhile fun c => c.isDigit
  let rest := s.drop digits.length
  let n := digits.foldl (fun n c => 10 * n + (c.toNat - 48)) 0
  if 65536 ≤ n then .error .port
  else match rest with
    | [] => .ok (if digits = [] then none else some n, [])
    | c :: _ => if c = '\\' then .ok (if digits = [] then none else some n, rest) else .error .port

/-- What was read of an address up to its path, which is still to be read. -/
structure Front where
  user : User := {}
  host : Option Host := none
  port : Option Nat := none
  path : List Char
  deriving DecidableEq, Repr

/-- Reads host and port behind the user; `named` tells whether there is one. -/
def readHost (x : Syntax) (named : Bool) (s : List Char) :
    Except Fault (Option Host × Option Nat × List Char) := do
  let (text, port) := cutHost false s
  if text = [] && x = .web then throw (.host .empty)
  let host ← (if x = .web then Host.ofText text else Host.ofOpaque text).mapError Fault.host
  if host.isEmpty && port.isSome then throw (.host .empty)
  let (number, rest) ← readPort (port.getD [])
  if host.isEmpty && named then throw (.host .empty)
  return (if host.isEmpty then none else some host, number, rest)

/-- Reads the part behind the two slashes; `isLast` tells whether the address ends with it. -/
def readFront (x : Syntax) (isLast : Bool) (s : List Char) : Except Fault Front := do
  let authority := s.takeWhile fun c => !x.isSlash c
  let path := s.drop authority.length
  let (user, place) := cutUser authority
  if user = some [] && place = [] && !(isLast && path = []) then throw (.host .empty)
  let user := readUser (user.getD [])
  let named := user.name ≠ "" || user.password.isSome
  let (host, port, rest) ← readHost x named place
  return { user, host, port, path := rest ++ path }

/-- The path of an address of a file, raw, and the host before it. -/
def readFile (s : List Char) : Except Fault (Option Host × List (List Char)) :=
  let slash (c : Char) : Bool := Syntax.file.isSlash c
  match s with
  | a :: b :: rest =>
    if slash a && slash b then
      let text := rest.takeWhile fun c => !slash c
      let path := Syntax.file.segments (rest.drop text.length)
      if Path.isDrive text then .ok (none, Text.split slash rest)
      else if text = [] then .ok (none, path)
      else do
        let host ← (Host.ofText text).mapError Fault.host
        return (if host = .name "localhost" then none else some host, path)
    else .ok (none, Syntax.file.segments s)
  | s => .ok (none, Syntax.file.segments s)

/-- Reads the part of an address between its scheme and its query; `isLast` tells whether the
address ends with it. -/
def readBody (scheme : String) (isLast : Bool) (s : List Char) : Except Fault Url := do
  let x := Syntax.ofScheme scheme
  match x, s with
  | .file, s =>
    let (host, segments) ← readFile s
    return {
      scheme, hasAuthority := true
      host := if Path.isOnDrive [] segments then none else host
      path := Path.render (Path.normal true segments) }
  | .web, s =>
    let f ← readFront x isLast (s.dropWhile x.isSlash)
    return {
      scheme, hasAuthority := true, username := f.user.name, password := f.user.password
      host := f.host
      port := if f.port = impliedPorts.lookup scheme then none else f.port
      path := Path.render (Path.normal false (x.segments f.path)) }
  | .other, '/' :: '/' :: s =>
    let f ← readFront x isLast s
    return {
      scheme, hasAuthority := true, username := f.user.name, password := f.user.password
      host := f.host, port := f.port
      path := if f.path = [] then "" else Path.render (Path.normal false (x.segments f.path)) }
  | .other, '/' :: s => return { scheme, path := Path.render (Path.normal false (x.segments s)) }
  | .other, s => return { scheme, path := String.ofList (encodeUnless inOpaque s) }

def parse (text : String) : Except Fault Url := do
  match readScheme? (significant text.toList) with
  | none => throw .noScheme
  | some (scheme, rest) =>
    let (front, fragment) := Text.cut '#' rest
    let (body, query) := Text.cut '?' front
    let web := Syntax.ofScheme scheme ≠ .other
    let encoded (plain : Char → Bool) (s : List Char) : String :=
      String.ofList (encodeUnless plain s)
    return { ← readBody scheme (query.isNone && fragment.isNone) body with
      query := query.map (encoded (inQuery web))
      fragment := fragment.map (encoded inFragment) }

end GovernanceIndex.Web.Url
