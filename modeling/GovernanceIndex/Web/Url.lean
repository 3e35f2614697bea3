import GovernanceIndex.Web.Host

/-!
Addresses of resources in normal form. User name, password, path, query and fragment are kept in
encoded form; a port is kept unless it is the one that the scheme implies.
-/
namespace GovernanceIndex.Web

/-- An address. Its authority, which may have an empty host, stands behind two slashes. -/
structure Url where
  scheme : String
  hasAuthority : Bool := false
  username : String := ""
  password : Option String := none
  host : Option Host := none
  port : Option Nat := none
  path : String
  query : Option String := none
  fragment : Option String := none
  deriving DecidableEq, Repr

namespace Url

def withPairs (u : Url) (pairs : List (String × String)) : Url :=
  if pairs.isEmpty then { u with query := if u.query = some "" then none else u.query }
  else
    let added := encodePairs pairs
    { u with query := match u.query with
      | some q => if q = "" then some added else some (q ++ "&" ++ added)
      | none => some added }

/-- An address without its user name and password, unless the name, or the password that stands
without a name, is no UTF-8 text. -/
def withoutUser (u : Url) : Url :=
  let isText (s : String) : Bool := (decode s).toOption.isSome
  if isText u.username && (u.username ≠ "" || u.password.all isText) then
    { u with username := "", password := none }
  else u

/-- What a request line names: path and query. -/
def target (u : Url) : String :=
  u.path ++ match u.query with
    | some q => "?" ++ q
    | none => ""

/-- The user name and the password, and what sets them off. -/
def renderUser (u : Url) : String :=
  match u.password with
  | some password => u.username ++ ":" ++ password ++ "@"
  | none => if u.username = "" then "" else u.username ++ "@"

/-- What stands between the scheme and the path. A path that starts with two slashes is set off from
the scheme by a dot segment. -/
def renderAuthority (u : Url) : String :=
  if u.hasAuthority then
    "//" ++ u.renderUser ++ (u.host.map Host.render).getD "" ++
      (u.port.map fun n => ":" ++ toString n).getD ""
  else if ['/', '/'].isPrefixOf u.path.toList then "/."
  else ""

def render (u : Url) : String :=
  u.scheme ++ ":" ++ u.renderAuthority ++ u.target ++ match u.fragment with
    | some f => "#" ++ f
    | none => ""

end Url

end GovernanceIndex.Web
