import GovernanceIndex.Tally.Stake

/-!
The two formulas for the stake of pools, and the cutover between them. The legacy formula leaves
out stake that has not voted; the current one counts it against approval, except that the standing
abstention still abstains on actions other than a hard fork.
-/
namespace GovernanceIndex

inductive SpoFormula where
  | legacy
  | current
  deriving DecidableEq, Repr

namespace SpoFormula

def names : List (String × SpoFormula) := [("legacy", .legacy), ("current", .current)]

def name : SpoFormula → String
  | .legacy => "legacy"
  | .current => "current"

def legacyMapping (b : StakeBuckets) (action : ActionType) : BucketMapping × Bool :=
  let (m, clamped) := b.drepMapping action
  (⟨m.yes, m.no, m.abstain, m.notVoted, false⟩, clamped)

def currentMapping (b : StakeBuckets) (action : ActionType) : BucketMapping × Bool :=
  let (notVoted, clamped) := b.notVoted
  match action with
  | .noConfidence =>
    (⟨b.yes + b.alwaysNoConfidence, b.no, b.abstain + b.alwaysAbstain, notVoted, true⟩, clamped)
  | .hardForkInitiation =>
    (⟨b.yes, b.no + b.alwaysAbstain + b.alwaysNoConfidence, b.abstain, notVoted, true⟩, clamped)
  | _ =>
    (⟨b.yes, b.no + b.alwaysNoConfidence, b.abstain + b.alwaysAbstain, notVoted, true⟩, clamped)

def mapping : SpoFormula → StakeBuckets → ActionType → BucketMapping × Bool
  | .legacy => legacyMapping
  | .current => currentMapping

def encode (f : SpoFormula) : Json := .str f.name

def decode : Json → Decoded SpoFormula := Json.decodeName names

end SpoFormula

/-- The point from which the current formula holds, and a single earlier proposal under it. -/
structure FormulaCutover where
  transitionEpoch : Epoch := ⟨534⟩
  transitionProposal : Option ProposalId := none
  deriving DecidableEq, Repr

namespace FormulaCutover

def select (c : FormulaCutover) (proposal : ProposalId) (submission : Epoch) : SpoFormula :=
  if c.transitionProposal = some proposal ∨ c.transitionEpoch.toNat ≤ submission.toNat then
    .current
  else .legacy

def encode (c : FormulaCutover) : Json :=
  .obj [("transition_epoch", c.transitionEpoch.encode),
    ("transition_proposal", .optional Identifier.encode c.transitionProposal)]

def decode (x : Json) : Decoded FormulaCutover := do
  let f ← x.fields ["transition_epoch", "transition_proposal"]
  return {
    transitionEpoch := ← f.required "transition_epoch" Epoch.decode
    transitionProposal := ← f.omittable "transition_proposal" (Identifier.decode .proposal) }

end FormulaCutover

/-- The tally of pool stake, with the formula that it was made by. -/
def StakeTally.ofPools (b : StakeBuckets) (action : ActionType) (proposal : ProposalId)
    (submission : Epoch) (cutover : FormulaCutover) : SpoFormula × StakeTally :=
  let formula := cutover.select proposal submission
  let (m, clamped) := formula.mapping b action
  (formula, .ofMapping m clamped)

end GovernanceIndex
