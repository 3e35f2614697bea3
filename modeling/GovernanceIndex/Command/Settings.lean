import GovernanceIndex.Command.Arguments
import GovernanceIndex.Settings

/-!
Settings of the jobs as arguments of a command.
-/
namespace GovernanceIndex

open Command

/-- A retry policy, made in one of the ways in which policies are made, or field by field. -/
def RetryPolicy.ofCommand (x : Json) : Command RetryPolicy := do
  let attempts := UInt32.ofNat (← withDefault x "max_attempts" 1 natAt)
  let base ← withDefault x "base" .zero durationAt
  let longest ← withDefault x "max" .zero durationAt
  match ← text x "kind" with
  | "default" => return .standard
  | "no_retry" => return .noRetry
  | "fixed" => return .fixed attempts base
  | "exponential" => return .exponential attempts base longest
  | "raw" =>
    let strategy ← withDefault x "strategy" .exponential fun y =>
      decoded (BackoffStrategy.decode y)
    return ⟨attempts, base, longest, strategy⟩
  | _ => throw (.malformed none)

def ThresholdTable.entryOfCommand : Json → Command (ActionType × ClassThresholds)
  | .list [action, classes] => do
    return (← domain (ActionType.parse (← textAt action)),
      ← decoded (ClassThresholds.decode classes))
  | _ => throw (.malformed none)

/-- A table of thresholds: by name, or entry by entry. -/
def ThresholdTable.ofCommand (x : Json) : Command ThresholdTable :=
  match x with
  | .text (some "mainnet") => return .mainnet
  | .text (some "empty") => return {}
  | .list entries => do return .ofList (← entries.mapM entryOfCommand)
  | _ => throw (.malformed none)

/-- The thresholds among the arguments of a command, those in force by default. -/
def ThresholdTable.among (x : Json) : Command ThresholdTable :=
  withDefault x "thresholds" .mainnet ofCommand

def FormulaCutover.among (x : Json) : Command FormulaCutover :=
  withDefault x "cutover" {} fun y => decoded (FormulaCutover.decode y)

/-- The settings that a command gives; by default requests are not repeated. -/
def Settings.ofCommand (x : Json) : Command Settings := do
  let c := field x "config"
  let d : Settings := {}
  return {
    retry := ← withDefault c "retry" .noRetry RetryPolicy.ofCommand
    epochLease := ← withDefault c "epoch_lease" d.epochLease durationAt
    delegationLease := ← withDefault c "delegation_lease" d.delegationLease durationAt
    pageSize := ← withDefault c "page_size" d.pageSize natAt
    infoBatchSize := ← withDefault c "info_batch_size" d.infoBatchSize natAt
    historyBatchSize := ← withDefault c "history_batch_size" d.historyBatchSize natAt
    writeBatchSize := ← withDefault c "write_batch_size" d.writeBatchSize natAt
    epochConcurrency := ← withDefault c "epoch_concurrency" d.epochConcurrency natAt
    delegationConcurrency :=
      ← withDefault c "delegation_concurrency" d.delegationConcurrency natAt
    includeDelegators := ← withDefault c "include_delegator_snapshots" false boolAt
    backfillFrom := ← withDefault c "backfill_from_epoch" d.backfillFrom epochAt
    maxEpochsPerRun := ← option c "max_epochs_per_run" natAt
    minQuotaReserve := ← withDefault c "min_quota_reserve" d.minQuotaReserve natAt
    thresholds := ← ThresholdTable.among x
    cutover := ← FormulaCutover.among x }

end GovernanceIndex
