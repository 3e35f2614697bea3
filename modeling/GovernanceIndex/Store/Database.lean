import GovernanceIndex.Number.Word
import GovernanceIndex.Text.Quoted
import GovernanceIndex.Web.Url.Reader

/-!
Addresses of a database for the store. An address is checked before a connection is made: its parts
are UTF-8 text once they are decoded, and its options can be read, in their order.
-/
namespace GovernanceIndex

inductive DatabaseFault where
  | address (fault : Web.Url.Fault)
  | bytes (fault : Text.Utf8.Fault)
  | internetAddress
  | numericOption (fault : Word.Fault)
  | encryptionMode (text : String)
  | noConnection
  deriving DecidableEq, Repr

def DatabaseFault.message : DatabaseFault → String
  | .address fault => "error with configuration: " ++ fault.message
  | .bytes fault => "error with configuration: " ++ fault.message
  | .internetAddress => "error with configuration: invalid IP address syntax"
  | .numericOption fault => "error with configuration: " ++ fault.message
  | .encryptionMode text =>
    "error with configuration: error with configuration: unknown value " ++ Text.quoted text ++
      " for \x60ssl_mode\x60"
  | .noConnection => "pool timed out while waiting for an open connection"

namespace Database

def encryptionModes : List String :=
  ["disable", "allow", "prefer", "require", "verify-ca", "verify-full"]

def checkPart (encoded : String) : Except DatabaseFault Unit := do
  let _ ← (Web.decode encoded).mapError DatabaseFault.bytes

/-- Checks a host. One that starts with a slash names a socket, and has to be text. -/
def checkHost (host : Web.Host) : Except DatabaseFault Unit :=
  match (Web.decodeBytes host.render.toList).head? with
  | some b => if b.toNat = 47 then checkPart host.render else .ok ()
  | none => .ok ()

def checkNumber (bound : Nat) (text : String) : Except DatabaseFault Unit := do
  let _ ← (Word.read bound text).mapError DatabaseFault.numericOption

/-- Checks an option by its name; an option with another name is passed over. -/
def checkOption : String × String → Except DatabaseFault Unit
  | (name, value) =>
    if name = "sslmode" ∨ name = "ssl-mode" then
      if encryptionModes.contains (String.ofList (value.toList.map Char.toLower)) then .ok ()
      else .error (.encryptionMode value)
    else if name = "hostaddr" then
      if Web.InternetAddress.isAddress value then .ok () else .error .internetAddress
    else if name = "port" then checkNumber (Nat.pow 2 16) value
    else if name = "statement-cache-capacity" then checkNumber (Nat.pow 2 64) value
    else .ok ()

def check (address : String) : Except DatabaseFault Unit := do
  let url ← (Web.Url.parse address).mapError DatabaseFault.address
  url.host.forM checkHost
  checkPart url.username
  url.password.forM checkPart
  checkPart (String.ofList (url.path.toList.dropWhile (· = '/')))
  (Web.decodePairs (url.query.getD "")).forM checkOption

/-- Connects to a database, which is out of reach here whatever its address is. -/
def connect (address : String) : DatabaseFault :=
  match check address with
  | .error fault => fault
  | .ok () => .noConnection

end Database

end GovernanceIndex
