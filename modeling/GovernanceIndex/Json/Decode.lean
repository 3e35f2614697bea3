import GovernanceIndex.DomainError
import GovernanceIndex.Json.Value
import GovernanceIndex.Number.Binary

/-!
Decoding JSON values into the types of the domain. A record is an object, whose unknown fields are
passed over and whose known fields stand at most once, or the list of its fields in their order.
A named constant is a string, or an object with that one name and the value `null`.
-/
namespace GovernanceIndex

inductive DecodeError where
  | shape
  | negativeAmount (n : Int)
  | percentOutOfRange (value : Decimal)
  | domain (cause : DomainError)
  deriving DecidableEq, Repr

/-- The wording of a cause, for the causes that the domain words itself. -/
def DecodeError.message? : DecodeError → Option String
  | .shape => none
  | .negativeAmount n => some ("negative amount: " ++ toString n)
  | .percentOutOfRange d => some ("percentage out of range: " ++ Binary.positional d)
  | .domain cause => some cause.message

abbrev Decoded (α : Type) := Except DecodeError α

namespace Json

def decodeText : Json → Decoded String
  | .text (some s) => .ok s
  | _ => .error .shape

def decodeBool : Json → Decoded Bool
  | .bool b => .ok b
  | _ => .error .shape

def decodeUInt32 : Json → Decoded UInt32
  | .int n => if 0 ≤ n ∧ n < 4294967296 then .ok (UInt32.ofNat n.toNat) else .error .shape
  | _ => .error .shape

def decodeUInt64 : Json → Decoded UInt64
  | .int n =>
    if 0 ≤ n ∧ n < 18446744073709551616 then .ok (UInt64.ofNat n.toNat) else .error .shape
  | _ => .error .shape

def decodeInt64 : Json → Decoded Int64
  | .int n =>
    if -9223372036854775808 ≤ n ∧ n < 9223372036854775808 then .ok (Int64.ofInt n)
    else .error .shape
  | _ => .error .shape

def decodeOption {α : Type} (decode : Json → Decoded α) : Json → Decoded (Option α)
  | .null => .ok none
  | x => (decode x).map some

def decodeItems {α : Type} (decode : Json → Decoded α) : List Json → Decoded (List α)
  | [] => .ok []
  | x :: xs => do return (← decode x) :: (← decodeItems decode xs)

def decodeList {α : Type} (decode : Json → Decoded α) : Json → Decoded (List α)
  | .list xs => decodeItems decode xs
  | _ => .error .shape

def encodeList {α : Type} (encode : α → Json) (xs : List α) : Json := .list (xs.map encode)

def decodeName {α : Type} (names : List (String × α)) : Json → Decoded α
  | .text (some s) => ((names.lookup s).map .ok).getD (.error .shape)
  | .object [(some s, .null)] => ((names.lookup s).map .ok).getD (.error .shape)
  | _ => .error .shape

/-- The known fields of a record, and whether they were given by position. -/
structure Fields where
  positional : Bool
  entries : List (String × Json)

def knownFields (names : List String) (fields : List (Option String × Json)) :
    List (String × Json) :=
  fields.filterMap fun f =>
    match f.1 with
    | some k => if k ∈ names then some (k, f.2) else none
    | none => none

/-- Reads a value as a record with the given field names. -/
def fields (names : List String) : Json → Decoded Fields
  | .list xs => if xs.length ≤ names.length then .ok ⟨true, names.zip xs⟩ else .error .shape
  | .object fs =>
    let known := knownFields names fs
    if fs.all (fun f => f.1.isSome) && decide (known.map Prod.fst).Nodup then .ok ⟨false, known⟩
    else .error .shape
  | _ => .error .shape

namespace Fields

def required {α : Type} (f : Fields) (name : String) (decode : Json → Decoded α) : Decoded α :=
  match f.entries.lookup name with
  | some x => decode x
  | none => .error .shape

def withDefault {α : Type} (f : Fields) (name : String) (fallback : α)
    (decode : Json → Decoded α) : Decoded α :=
  match f.entries.lookup name with
  | some x => decode x
  | none => .ok fallback

/-- A field that may be `null`, and may be left out of an object. -/
def nullable {α : Type} (f : Fields) (name : String) (decode : Json → Decoded α) :
    Decoded (Option α) :=
  match f.entries.lookup name with
  | some x => decodeOption decode x
  | none => if f.positional then .error .shape else .ok none

/-- A field that may be `null`, and may be left out everywhere. -/
def omittable {α : Type} (f : Fields) (name : String) (decode : Json → Decoded α) :
    Decoded (Option α) :=
  f.withDefault name none (decodeOption decode)

end Fields

end Json

end GovernanceIndex
