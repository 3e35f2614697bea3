import GovernanceIndex.Text.Quoted

/-!
What can be wrong with a value of the domain, as causes, and the wording of each cause.
-/
namespace GovernanceIndex

inductive IdKind where
  | stakeAddress
  | delegate
  | proposal
  | committeeMember
  | worker
  deriving DecidableEq, Repr

def IdKind.name : IdKind → String
  | .stakeAddress => "StakeAddress"
  | .delegate => "DelegateId"
  | .proposal => "ProposalId"
  | .committeeMember => "CommitteeMemberId"
  | .worker => "InstanceId"

def IdKind.start : IdKind → String
  | .stakeAddress => "stake"
  | .delegate => "drep"
  | .proposal | .committeeMember | .worker => ""

inductive IdFault where
  | empty
  | blank
  | wrongStart
  deriving DecidableEq, Repr

inductive DomainError where
  | invalidAmount (text : String)
  | invalidId (kind : IdKind) (fault : IdFault) (text : String)
  | unknownAction (text : String)
  | unknownVote (text : String)
  deriving DecidableEq, Repr

/-- The wording of an identifier's fault, behind the name of its kind. -/
def IdFault.detail (kind : IdKind) (text : String) : IdFault → String
  | .empty => "empty"
  | .blank => "contains whitespace: " ++ Text.quoted text
  | .wrongStart => "expected \x60" ++ kind.start ++ "\x60 prefix, got " ++ Text.quoted text

def DomainError.message : DomainError → String
  | .invalidAmount text =>
    "invalid amount: expected non-negative decimal integer, got " ++ Text.quoted text
  | .invalidId kind fault text =>
    "invalid identifier: " ++ kind.name ++ ": " ++ fault.detail kind text
  | .unknownAction text => "validation failed: unknown governance action type: " ++ Text.quoted text
  | .unknownVote text => "validation failed: unknown vote: " ++ Text.quoted text

end GovernanceIndex
