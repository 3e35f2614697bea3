import GovernanceIndex.DomainError

/-!
What is voted on, by whom, and how: the types of governance action, the classes of voters, and the
votes, each with the names by which it is written and read.
-/
namespace GovernanceIndex

inductive ActionType where
  | noConfidence
  | updateCommittee
  | newConstitution
  | hardForkInitiation
  | parameterChange
  | treasuryWithdrawals
  | infoAction
  deriving DecidableEq, Repr

namespace ActionType

def names : List (String × ActionType) :=
  [("no_confidence", .noConfidence), ("update_committee", .updateCommittee),
    ("new_constitution", .newConstitution), ("hard_fork_initiation", .hardForkInitiation),
    ("parameter_change", .parameterChange), ("treasury_withdrawals", .treasuryWithdrawals),
    ("info_action", .infoAction)]

def name : ActionType → String
  | .noConfidence => "no_confidence"
  | .updateCommittee => "update_committee"
  | .newConstitution => "new_constitution"
  | .hardForkInitiation => "hard_fork_initiation"
  | .parameterChange => "parameter_change"
  | .treasuryWithdrawals => "treasury_withdrawals"
  | .infoAction => "info_action"

/-- The spellings that are read, in lower case and without separators. -/
def spellings : List (String × ActionType) :=
  [("noconfidence", .noConfidence), ("updatecommittee", .updateCommittee),
    ("newcommittee", .updateCommittee), ("newconstitution", .newConstitution),
    ("hardforkinitiation", .hardForkInitiation), ("parameterchange", .parameterChange),
    ("treasurywithdrawals", .treasuryWithdrawals), ("treasurywithdrawal", .treasuryWithdrawals),
    ("infoaction", .infoAction), ("info", .infoAction)]

/-- The lower case of a character, as far as it can be an ASCII letter: besides the capitals, the
Kelvin sign is a `k`. -/
def fold (c : Char) : Char := if c.toNat = 0x212A then 'k' else c.toLower

/-- Reads an action type without regard to case, hyphens and underscores. -/
def parse (text : String) : Except DomainError ActionType :=
  let letters := (text.toList.filter fun c => c ≠ '_' && c ≠ '-').map fold
  match spellings.lookup (String.ofList letters) with
  | some action => .ok action
  | none => .error (.unknownAction text)

end ActionType

inductive VoterClass where
  | drep
  | spo
  | committee
  deriving DecidableEq, Repr

/-- Every class with its name, in the order in which verdicts are listed. -/
def VoterClass.names : List (String × VoterClass) :=
  [("drep", .drep), ("spo", .spo), ("committee", .committee)]

def VoterClass.name : VoterClass → String
  | .drep => "drep"
  | .spo => "spo"
  | .committee => "committee"

inductive Vote where
  | yes
  | no
  | abstain
  deriving DecidableEq, Repr

def Vote.names : List (String × Vote) := [("yes", .yes), ("no", .no), ("abstain", .abstain)]

def Vote.name : Vote → String
  | .yes => "yes"
  | .no => "no"
  | .abstain => "abstain"

def Vote.parse (text : String) : Except DomainError Vote :=
  match names.lookup (String.ofList (text.toList.map Char.toLower)) with
  | some vote => .ok vote
  | none => .error (.unknownVote text)

end GovernanceIndex
