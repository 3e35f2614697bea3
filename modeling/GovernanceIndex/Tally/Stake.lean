import GovernanceIndex.Ballot
import GovernanceIndex.Codec
import GovernanceIndex.Tally.Percent

/-!
Stake by the way it is voted, and its tally. A class's buckets are mapped to yes, no and abstaining
stake by a rule that depends on the action type; what is left of the total has not voted, and counts
against approval only under some rules.
-/
namespace GovernanceIndex

/-- The stake of a class in the buckets that the ledger reports. -/
structure StakeBuckets where
  total : Amount
  yes : Amount
  no : Amount
  abstain : Amount
  alwaysAbstain : Amount := 0
  alwaysNoConfidence : Amount := 0
  inactive : Amount := 0
  deriving DecidableEq, Repr

structure BucketMapping where
  yes : Amount
  no : Amount
  abstain : Amount
  notVoted : Amount
  notVotedCounts : Bool
  deriving DecidableEq, Repr

structure StakeTally where
  yes : Amount
  no : Amount
  abstain : Amount
  notVoted : Amount
  denominator : Amount
  yesPct : Percent
  noPct : Percent
  notVotedPct : Percent
  notVotedClamped : Bool
  deriving DecidableEq, Repr

namespace StakeBuckets

def named (b : StakeBuckets) : Amount :=
  b.yes + b.no + b.abstain + b.alwaysAbstain + b.alwaysNoConfidence + b.inactive

/-- What the named buckets leave of the total, zero with the flag set if they exceed it. -/
def notVoted (b : StakeBuckets) : Amount × Bool := Amount.subClamped b.total b.named

/-- The mapping of delegated representatives: standing votes of no confidence support that action
and oppose every other. -/
def drepMapping (b : StakeBuckets) (action : ActionType) : BucketMapping × Bool :=
  let (notVoted, clamped) := b.notVoted
  let supports := action = .noConfidence
  (⟨if supports then b.yes + b.alwaysNoConfidence else b.yes,
    if supports then b.no else b.no + b.alwaysNoConfidence,
    b.abstain + b.alwaysAbstain, notVoted, true⟩, clamped)

end StakeBuckets

def BucketMapping.denominator (m : BucketMapping) : Amount :=
  m.yes + m.no + if m.notVotedCounts then m.notVoted else 0

namespace StakeTally

def ofMapping (m : BucketMapping) (clamped : Bool) : StakeTally where
  yes := m.yes
  no := m.no
  abstain := m.abstain
  notVoted := m.notVoted
  denominator := m.denominator
  yesPct := .share m.yes m.denominator
  noPct := .share m.no m.denominator
  notVotedPct := if m.notVotedCounts then .share m.notVoted m.denominator else .zero
  notVotedClamped := clamped

def hasVotes (t : StakeTally) : Bool := decide (t.denominator ≠ 0)

def meets (t : StakeTally) (threshold : Percent) : Bool := threshold.isMetBy t.yes t.denominator

def ofDreps (b : StakeBuckets) (action : ActionType) : StakeTally :=
  let (m, clamped) := b.drepMapping action
  ofMapping m clamped

end StakeTally

def StakeBuckets.encode (b : StakeBuckets) : Json :=
  .obj [("total", Amount.encode b.total), ("yes", Amount.encode b.yes), ("no", Amount.encode b.no),
    ("abstain", Amount.encode b.abstain), ("always_abstain", Amount.encode b.alwaysAbstain),
    ("always_no_confidence", Amount.encode b.alwaysNoConfidence),
    ("inactive", Amount.encode b.inactive)]

/-- Decodes stake buckets; the last three default to zero. -/
def StakeBuckets.decode (x : Json) : Decoded StakeBuckets := do
  let f ← x.fields
    ["total", "yes", "no", "abstain", "always_abstain", "always_no_confidence", "inactive"]
  return {
    total := ← f.required "total" Amount.decode
    yes := ← f.required "yes" Amount.decode
    no := ← f.required "no" Amount.decode
    abstain := ← f.required "abstain" Amount.decode
    alwaysAbstain := ← f.withDefault "always_abstain" 0 Amount.decode
    alwaysNoConfidence := ← f.withDefault "always_no_confidence" 0 Amount.decode
    inactive := ← f.withDefault "inactive" 0 Amount.decode }

def BucketMapping.encode (m : BucketMapping) : Json :=
  .obj [("yes", Amount.encode m.yes), ("no", Amount.encode m.no),
    ("abstain", Amount.encode m.abstain), ("not_voted", Amount.encode m.notVoted),
    ("not_voted_counts", .bool m.notVotedCounts)]

def BucketMapping.decode (x : Json) : Decoded BucketMapping := do
  let f ← x.fields ["yes", "no", "abstain", "not_voted", "not_voted_counts"]
  return {
    yes := ← f.required "yes" Amount.decode
    no := ← f.required "no" Amount.decode
    abstain := ← f.required "abstain" Amount.decode
    notVoted := ← f.required "not_voted" Amount.decode
    notVotedCounts := ← f.required "not_voted_counts" Json.decodeBool }

def StakeTally.encode (t : StakeTally) : Json :=
  .obj [("yes", Amount.encode t.yes), ("no", Amount.encode t.no),
    ("abstain", Amount.encode t.abstain), ("not_voted", Amount.encode t.notVoted),
    ("denominator", Amount.encode t.denominator), ("yes_pct", t.yesPct.encode),
    ("no_pct", t.noPct.encode), ("not_voted_pct", t.notVotedPct.encode),
    ("not_voted_clamped", .bool t.notVotedClamped)]

def StakeTally.decode (x : Json) : Decoded StakeTally := do
  let f ← x.fields ["yes", "no", "abstain", "not_voted", "denominator", "yes_pct", "no_pct",
    "not_voted_pct", "not_voted_clamped"]
  return {
    yes := ← f.required "yes" Amount.decode
    no := ← f.required "no" Amount.decode
    abstain := ← f.required "abstain" Amount.decode
    notVoted := ← f.required "not_voted" Amount.decode
    denominator := ← f.required "denominator" Amount.decode
    yesPct := ← f.required "yes_pct" Percent.decode
    noPct := ← f.required "no_pct" Percent.decode
    notVotedPct := ← f.required "not_voted_pct" Percent.decode
    notVotedClamped := ← f.required "not_voted_clamped" Json.decodeBool }

end GovernanceIndex
