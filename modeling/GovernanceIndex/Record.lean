import GovernanceIndex.Ledger.Payload
import GovernanceIndex.RetryPolicy
import GovernanceIndex.Store.Record
import GovernanceIndex.Tally.Proposal

/-!
The kinds of records by name. Reading a record and writing it again gives its canonical form: every
field is there, in its order and its usual spelling.
-/
namespace GovernanceIndex.Record

/-- The canonical form of a value, given how it is decoded and encoded. -/
def canonical {α : Type} (decode : Json → Decoded α) (encode : α → Json) (x : Json) :
    Decoded Json :=
  (decode x).map encode

def identifier (kind : IdKind) : Json → Decoded Json :=
  canonical (Identifier.decode kind) Identifier.encode

/-- Every kind of record, with the canonical form of its values. -/
def kinds : List (String × (Json → Decoded Json)) :=
  [("lovelace", canonical Amount.decode Amount.encode),
    ("percent", canonical Percent.decode Percent.encode),
    ("epoch", canonical Epoch.decode Epoch.encode),
    ("stake_address", identifier .stakeAddress),
    ("delegate", identifier .delegate),
    ("proposal", identifier .proposal),
    ("committee_member", identifier .committeeMember),
    ("instance", identifier .worker),
    ("action", canonical ActionType.decode ActionType.encode),
    ("vote", canonical Vote.decode Vote.encode),
    ("voter_class", canonical VoterClass.decode VoterClass.encode),
    ("buckets", canonical StakeBuckets.decode StakeBuckets.encode),
    ("mapping", canonical BucketMapping.decode BucketMapping.encode),
    ("stake_tally", canonical StakeTally.decode StakeTally.encode),
    ("committee_tally", canonical CommitteeTally.decode CommitteeTally.encode),
    ("vote_record", canonical CommitteeVote.decode CommitteeVote.encode),
    ("committee", canonical CommitteeSnapshot.decode CommitteeSnapshot.encode),
    ("snapshot", canonical ProposalSnapshot.decode ProposalSnapshot.encode),
    ("proposal_tally", canonical ProposalTally.decode ProposalTally.encode),
    ("cutover", canonical FormulaCutover.decode FormulaCutover.encode),
    ("spo_formula", canonical SpoFormula.decode SpoFormula.encode),
    ("class_thresholds", canonical ClassThresholds.decode ClassThresholds.encode),
    ("threshold_table", canonical ThresholdTable.decode ThresholdTable.encode),
    ("verdict", canonical ClassVerdict.decode ClassVerdict.encode),
    ("ratification", canonical Ratification.decode Ratification.encode),
    ("retry_policy", canonical RetryPolicy.decode RetryPolicy.encode),
    ("backoff_strategy", canonical BackoffStrategy.decode BackoffStrategy.encode),
    ("job_result", canonical JobResult.decode JobResult.encode),
    ("job_lock_state", canonical JobLock.decode JobLock.encode),
    ("epoch_step", canonical EpochStep.decode EpochStep.encode),
    ("checkpoint", canonical EpochCheckpoint.decode EpochCheckpoint.encode),
    ("drep_snapshot", canonical DelegateSnapshot.decode DelegateSnapshot.encode),
    ("epoch_totals", canonical EpochTotals.decode EpochTotals.encode),
    ("delegator_summary", canonical DelegatorSummary.decode DelegatorSummary.encode),
    ("delegation_state", canonical DelegationState.decode DelegationState.encode),
    ("change_event", canonical DelegationChange.decode DelegationChange.encode),
    ("backfill_cursor", canonical BackfillCursor.decode BackfillCursor.encode),
    ("tip", canonical Tip.decode Tip.encode),
    ("drep_list_entry", canonical ListedDelegate.decode ListedDelegate.encode),
    ("drep_info", canonical DelegateInfo.decode DelegateInfo.encode),
    ("drep_voting_power", canonical DelegatePower.decode DelegatePower.encode),
    ("supply_totals", canonical SupplyTotals.decode SupplyTotals.encode),
    ("drep_epoch_summary", canonical DelegationTotal.decode DelegationTotal.encode),
    ("pool_voting_power", canonical PoolPower.decode PoolPower.encode),
    ("delegator", canonical Delegator.decode Delegator.encode),
    ("delegation_update", canonical DelegationUpdate.decode DelegationUpdate.encode),
    ("account_history", canonical DelegationHistory.decode DelegationHistory.encode)]

end GovernanceIndex.Record
