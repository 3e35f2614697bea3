import GovernanceIndex.Text.Normal
import GovernanceIndex.Text.Punycode
import GovernanceIndex.Text.Utf8
import GovernanceIndex.Web.HostName.Direction
import GovernanceIndex.Web.HostName.Joiner
import GovernanceIndex.Web.HostName.Mapping

/-!
Names of hosts and their ASCII form. A name is mapped to its normal form and split at its points
into labels; a label with other characters than those of ASCII is written in ASCII behind a marker.
A label that starts with the marker is the ASCII form of a label that could stand in its place.
-/
namespace GovernanceIndex.Web.HostName

open Text

/-- The marker of labels in ASCII form. -/
def marker : List Char := ['x', 'n', '-', '-']

/-- The longest ASCII form that is read, behind its marker. -/
def longestForm : Nat := 2000

/-- The longest label that is written in ASCII form. -/
def longestLabel : Nat := 1000

def isAscii (c : Char) : Bool := decide (c.toNat < 128)

/-- The characters of ASCII that no name contains. -/
def isForbidden (c : Char) : Bool :=
  c.toNat ≤ 0x20 || c.toNat = 0x7F || c = '%' || c = '#' || c = '/' || c = ':' || c = '<' ||
    c = '>' || c = '?' || c = '@' || c = '[' || c = '\\' || c = ']' || c = '^' || c = '|'

/-- Whether characters beyond ASCII can make up a label. -/
def isLabel (s : List Char) : Bool :=
  !(s.head?.any isMark) && joinersFit [] s && decide (s.length ≤ longestLabel)

/-- A label: its ASCII form, and the characters that it stands for. -/
structure Label where
  ascii : List Char
  text : List Char
  deriving DecidableEq, Repr

namespace Label

/-- The label with an ASCII form, of which the part behind the marker is given. -/
def ofForm? (form : List Char) : Option Label :=
  if form.all isAscii && form ≠ [] && form.getLast? ≠ some '-' &&
      decide (form.length ≤ longestForm) then do
    let text ← Punycode.decode? form
    if text.all (fun c => image? c = some [c] && !isForbidden c && c ≠ '.') &&
        normalForm text = text && !marker.isPrefixOf text && isLabel text then
      return ⟨marker ++ form, text⟩
    else none
  else none

/-- The label of mapped characters. -/
def ofText? (s : List Char) : Option Label :=
  if s.any isForbidden then none
  else if marker.isPrefixOf s then ofForm? (s.drop marker.length)
  else if s.all isAscii then some ⟨s, s⟩
  else if isLabel s then some ⟨marker ++ Punycode.encode s, s⟩
  else none

end Label

/-- Whether labels make up a name: if one of them mixes directions, each of them runs one way. -/
def directionsFit (labels : List Label) : Bool :=
  if labels.any fun l => l.text.any fun c => (direction c).isMixing then
    labels.all fun l => runsOneWay l.text
  else true

/-- The ASCII form of a name, if it is one. -/
def toAscii? (bytes : List UInt8) : Option (List Char) := do
  let text ← (Utf8.decode bytes).toOption
  let mapped ← text.mapM image?
  let labels ← (split (· = '.') (normalForm mapped.flatten)).mapM Label.ofText?
  if directionsFit labels then return ['.'].intercalate (labels.map fun l => l.ascii) else none

end GovernanceIndex.Web.HostName
