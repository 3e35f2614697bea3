import GovernanceIndex.DomainError
import GovernanceIndex.Text.Blank

/-!
Identifiers: opaque texts without blanks, told apart by kind. An identifier carries the evidence
that its text was accepted, so a stored identifier is always well formed.
-/
namespace GovernanceIndex

/-- What is wrong with a text as an identifier of this kind, if anything. -/
def IdKind.fault? (kind : IdKind) (text : String) : Option IdFault :=
  if text.toList = [] then some .empty
  else if text.toList.any Text.isBlank then some .blank
  else if kind.start.toList.isPrefixOf text.toList then none
  else some .wrongStart

/-- A text accepted as an identifier of its kind. -/
structure Identifier (kind : IdKind) where
  text : String
  accepted : kind.fault? text = none

namespace Identifier

variable {kind : IdKind}

@[ext]
theorem ext {a b : Identifier kind} (h : a.text = b.text) : a = b := by
  cases a; cases b; cases h; rfl

instance : DecidableEq (Identifier kind) := fun a b =>
  if h : a.text = b.text then .isTrue (ext h) else .isFalse fun e => h (e ▸ rfl)

instance : Repr (Identifier kind) := ⟨fun a _ => repr a.text⟩

/-- Accepts a text as an identifier of the kind, or says what is wrong with it. -/
def parse (kind : IdKind) (text : String) : Except DomainError (Identifier kind) :=
  match h : kind.fault? text with
  | none => .ok ⟨text, h⟩
  | some fault => .error (.invalidId kind fault text)

theorem parse_text (a : Identifier kind) : parse kind a.text = .ok a := by
  unfold parse
  split
  · rfl
  · next h => rw [a.accepted] at h; cases h

/-- Identifiers are ordered by the code points of their texts. -/
def le (a b : Identifier kind) : Bool := decide (a.text ≤ b.text)

def sort (ids : List (Identifier kind)) : List (Identifier kind) := ids.mergeSort le

end Identifier

abbrev StakeAddress := Identifier .stakeAddress

/-- A delegate: a representative's key or one of the two predefined options. -/
abbrev DelegateId := Identifier .delegate

abbrev ProposalId := Identifier .proposal

abbrev CommitteeMemberId := Identifier .committeeMember

/-- A running worker, which takes leases under this name. -/
abbrev WorkerId := Identifier .worker

/-- The predefined options, which are not keys and have no record of their own. -/
def DelegateId.isPredefined (d : DelegateId) : Bool :=
  d.text == "drep_always_abstain" || d.text == "drep_always_no_confidence"

end GovernanceIndex
