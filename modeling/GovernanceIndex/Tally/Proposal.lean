import GovernanceIndex.Tally.Committee
import GovernanceIndex.Tally.Formula
import GovernanceIndex.Tally.Threshold

/-!
The tally of a proposal: each class with data is tallied by its own rule, and the verdict compares
the tallies with the thresholds of the action type.
-/
namespace GovernanceIndex

structure ProposalSnapshot where
  proposalId : ProposalId
  actionType : ActionType
  submissionEpoch : Epoch
  drep : Option StakeBuckets := none
  spo : Option StakeBuckets := none
  committee : Option CommitteeSnapshot := none
  deriving DecidableEq, Repr

structure ProposalTally where
  proposalId : ProposalId
  actionType : ActionType
  drep : Option StakeTally
  spo : Option StakeTally
  spoFormula : Option SpoFormula
  committee : Option CommitteeTally
  ratification : Ratification
  deriving DecidableEq, Repr

namespace ProposalTally

/-- The share of a class and whether it meets a threshold, if the class has data. -/
def check (drep spo : Option StakeTally) (committee : Option CommitteeTally) :
    VoterClass → Percent → Option (Percent × Bool)
  | .drep, p => drep.map fun t => (t.yesPct, t.hasVotes && t.meets p)
  | .spo, p => spo.map fun t => (t.yesPct, t.hasVotes && t.meets p)
  | .committee, p => committee.map fun t => (t.yesPct, t.hasVotes && t.meets p)

def ofSnapshot (s : ProposalSnapshot) (thresholds : ThresholdTable) (cutover : FormulaCutover) :
    ProposalTally :=
  let drep := s.drep.map fun b => StakeTally.ofDreps b s.actionType
  let pools := s.spo.map fun b =>
    StakeTally.ofPools b s.actionType s.proposalId s.submissionEpoch cutover
  let committee := s.committee.map CommitteeTally.ofSnapshot
  { proposalId := s.proposalId
    actionType := s.actionType
    drep
    spo := pools.map Prod.snd
    spoFormula := pools.map Prod.fst
    committee
    ratification := .evaluate (thresholds.get s.actionType)
      (check drep (pools.map Prod.snd) committee) }

end ProposalTally

def ProposalSnapshot.encode (s : ProposalSnapshot) : Json :=
  .obj [("proposal_id", s.proposalId.encode), ("action_type", s.actionType.encode),
    ("submission_epoch", s.submissionEpoch.encode),
    ("drep", .optional StakeBuckets.encode s.drep), ("spo", .optional StakeBuckets.encode s.spo),
    ("committee", .optional CommitteeSnapshot.encode s.committee)]

def ProposalSnapshot.decode (x : Json) : Decoded ProposalSnapshot := do
  let f ← x.fields ["proposal_id", "action_type", "submission_epoch", "drep", "spo", "committee"]
  return {
    proposalId := ← f.required "proposal_id" (Identifier.decode .proposal)
    actionType := ← f.required "action_type" ActionType.decode
    submissionEpoch := ← f.required "submission_epoch" Epoch.decode
    drep := ← f.omittable "drep" StakeBuckets.decode
    spo := ← f.omittable "spo" StakeBuckets.decode
    committee := ← f.omittable "committee" CommitteeSnapshot.decode }

def ProposalTally.encode (t : ProposalTally) : Json :=
  .obj [("proposal_id", t.proposalId.encode), ("action_type", t.actionType.encode),
    ("drep", .optional StakeTally.encode t.drep), ("spo", .optional StakeTally.encode t.spo),
    ("spo_formula", .optional SpoFormula.encode t.spoFormula),
    ("committee", .optional CommitteeTally.encode t.committee),
    ("ratification", t.ratification.encode)]

def ProposalTally.decode (x : Json) : Decoded ProposalTally := do
  let f ← x.fields
    ["proposal_id", "action_type", "drep", "spo", "spo_formula", "committee", "ratification"]
  return {
    proposalId := ← f.required "proposal_id" (Identifier.decode .proposal)
    actionType := ← f.required "action_type" ActionType.decode
    drep := ← f.nullable "drep" StakeTally.decode
    spo := ← f.nullable "spo" StakeTally.decode
    spoFormula := ← f.nullable "spo_formula" SpoFormula.decode
    committee := ← f.nullable "committee" CommitteeTally.decode
    ratification := ← f.required "ratification" Ratification.decode }

end GovernanceIndex
