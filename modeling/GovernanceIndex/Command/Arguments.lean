import GovernanceIndex.Codec
import GovernanceIndex.Time.Timestamp

/-!
Commands given as JSON objects, whose fields are their arguments. An argument that is missing or
`null` is absent.
-/
namespace GovernanceIndex

/-- Why a command cannot be run: it is no command, or an argument of it, which is named where that is
known, is no value of its type. -/
inductive CommandError where
  | malformed (argument : Option String)
  | domain (cause : DomainError)
  | decode (cause : DecodeError)
  deriving DecidableEq, Repr

abbrev Command := Except CommandError

/-- Names the argument that is no value of its type. -/
def CommandError.named (name : String) : CommandError → CommandError
  | .malformed none => .malformed (some name)
  | e => e

namespace Command

def field (x : Json) (name : String) : Json :=
  match x with
  | .object fs => ((fs.find? fun f => f.1 = some name).map Prod.snd).getD .null
  | _ => .null

def has (x : Json) (name : String) : Bool :=
  match field x name with
  | .null => false
  | _ => true

def decoded {α : Type} (d : Decoded α) : Command α := d.mapError .decode

def domain {α : Type} (d : Except DomainError α) : Command α := d.mapError .domain

def value {α : Type} (x : Json) (name : String) (decode : Json → Decoded α) : Command α :=
  decoded (decode (field x name))

def argument {α : Type} (x : Json) (name : String) (read : Json → Command α) : Command α :=
  (read (field x name)).mapError (CommandError.named name)

def option {α : Type} (x : Json) (name : String) (read : Json → Command α) :
    Command (Option α) :=
  if has x name then (argument x name read).map some else .ok none

def withDefault {α : Type} (x : Json) (name : String) (fallback : α) (read : Json → Command α) :
    Command α :=
  if has x name then argument x name read else .ok fallback

def textAt : Json → Command String
  | .text (some s) => .ok s
  | _ => .error (.malformed none)

def natAt : Json → Command Nat
  | .int n => .ok n.toNat
  | _ => .error (.malformed none)

def boolAt : Json → Command Bool
  | .bool b => .ok b
  | _ => .error (.malformed none)

def itemsAt : Json → Command (List Json)
  | .list xs => .ok xs
  | _ => .error (.malformed none)

def wordAt (x : Json) : Command UInt64 := decoded x.decodeUInt64

/-- An amount, which is a text in an argument, also where a record takes a number. -/
def amountAt (x : Json) : Command Amount := do domain (Amount.parse (← textAt x))

def epochAt (x : Json) : Command Epoch := decoded (Epoch.decode x)

def idAt (kind : IdKind) (x : Json) : Command (Identifier kind) := do
  domain (Identifier.parse kind (← textAt x))

/-- A length of time: milliseconds, or seconds and nanoseconds, which may be left out. -/
def durationAt : Json → Command Duration
  | .object [(some "ms", .int n)] => .ok (.ofMillis (UInt64.ofNat n.toNat))
  | .object [(some "secs", .int n)] => .ok (.ofSecs (UInt64.ofNat n.toNat))
  | x => decoded (Duration.decode x)

def text (x : Json) (name : String) : Command String := argument x name textAt

def nat (x : Json) (name : String) : Command Nat := argument x name natAt

def items (x : Json) (name : String) : Command (List Json) := argument x name itemsAt

def amount (x : Json) (name : String) : Command Amount := argument x name amountAt

def epoch (x : Json) (name : String) : Command Epoch := epochAt (field x name)

def time (x : Json) (name : String) : Command Timestamp := value x name Timestamp.decode

def id (kind : IdKind) (x : Json) (name : String) : Command (Identifier kind) :=
  argument x name (idAt kind)

def ids (kind : IdKind) (x : Json) (name : String) : Command (List (Identifier kind)) :=
  argument x name fun y => do (← itemsAt y).mapM (idAt kind)

end Command

end GovernanceIndex
