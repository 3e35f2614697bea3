import GovernanceIndex.Amount
import GovernanceIndex.Ballot
import GovernanceIndex.Epoch
import GovernanceIndex.Identifier
import GovernanceIndex.Json.Decode

/-!
The JSON forms of the basic values: amounts are strings of digits, or integers of 64 bits when read;
epochs are integers, identifiers strings, and the enumerations named constants.
-/
namespace GovernanceIndex

def Amount.encode (a : Amount) : Json := .str (Amount.render a)

/-- Decodes a string of digits or an integer of 64 bits. -/
def Amount.decode : Json → Decoded Amount
  | .int n => if 0 ≤ n then .ok n.toNat else .error (.negativeAmount n)
  | .text (some s) => (Amount.parse s).mapError .domain
  | _ => .error .shape

def Epoch.encode (e : Epoch) : Json := .nat e.toNat

def Epoch.decode (x : Json) : Decoded Epoch := x.decodeUInt32.map Epoch.mk

namespace Identifier

def encode {kind : IdKind} (a : Identifier kind) : Json := .str a.text

def decode (kind : IdKind) (x : Json) : Decoded (Identifier kind) := do
  match Identifier.parse kind (← x.decodeText) with
  | .ok a => return a
  | .error cause => throw (.domain cause)

end Identifier

def ActionType.encode (a : ActionType) : Json := .str a.name

def ActionType.decode : Json → Decoded ActionType := Json.decodeName names

def Vote.encode (v : Vote) : Json := .str v.name

def Vote.decode : Json → Decoded Vote := Json.decodeName names

def VoterClass.encode (c : VoterClass) : Json := .str c.name

def VoterClass.decode : Json → Decoded VoterClass := Json.decodeName names

def Json.word (n : UInt64) : Json := .nat n.toNat

end GovernanceIndex
