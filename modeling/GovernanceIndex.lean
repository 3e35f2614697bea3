import GovernanceIndex.Admin.Services
import GovernanceIndex.Command.Ledger
import GovernanceIndex.Command.Settings
import GovernanceIndex.Command.Store
import GovernanceIndex.Json.Writer
import GovernanceIndex.Ledger.Scripted
import GovernanceIndex.Record
import GovernanceIndex.Run.TimedItem
import GovernanceIndex.Simulation.Basic
import GovernanceIndex.Store.Log
import GovernanceIndex.Proofs.Run.Contract
import GovernanceIndex.Proofs.Run.Reads
import GovernanceIndex.Proofs.Ledger.Answers
import GovernanceIndex.Proofs.Sync.ChangeLog
import GovernanceIndex.Proofs.Table
import GovernanceIndex.Proofs.Sync.DelegationCycle
import GovernanceIndex.Proofs.Sync.LogOrder
import GovernanceIndex.Proofs.Store.Leases
import GovernanceIndex.Proofs.Store.EpochMarks
import GovernanceIndex.Proofs.Sync.InventoryMerge
import GovernanceIndex.Proofs.Sync.EpochSteps
import GovernanceIndex.Proofs.Sync.EpochRuns
import GovernanceIndex.Proofs.Tally.Ratification
import GovernanceIndex.Proofs.Sync.CycleRule
import GovernanceIndex.Proofs.Identifier
import GovernanceIndex.Proofs.Ledger.View
import GovernanceIndex.Proofs.Sync.Outlook
import GovernanceIndex.Proofs.Sync.Resumption
import GovernanceIndex.Proofs.Sync.EpochInventory
import GovernanceIndex.Proofs.Sync.EpochRequests
import GovernanceIndex.Proofs.Sync.Backlog
import GovernanceIndex.Proofs.Sync.FullBackfill
import GovernanceIndex.Proofs.Jobs.HeldLeases
import GovernanceIndex.Proofs.Jobs.LateRelease
import GovernanceIndex.Proofs.Run.Outcomes
import GovernanceIndex.Proofs.Sync.CycleOutcome
import GovernanceIndex.Proofs.Sync.CycleAccounts
import GovernanceIndex.Proofs.Sync.FixedReplies
import GovernanceIndex.Proofs.Store.Alike
import GovernanceIndex.Proofs.Sync.Batching
import GovernanceIndex.Proofs.Sync.Frames
import GovernanceIndex.Proofs.Jobs.ExclusiveRuns
import GovernanceIndex.Proofs.Jobs.LeaseBalance
import GovernanceIndex.Proofs.Run.Agreement
import GovernanceIndex.Proofs.Run.FanOutPace
import GovernanceIndex.Proofs.Sync.Twins
import GovernanceIndex.Proofs.Sync.CycleTwins
import GovernanceIndex.Proofs.Sync.Charted
import GovernanceIndex.Proofs.Sync.Recall
import GovernanceIndex.Proofs.Jobs.LeaseFrames
import GovernanceIndex.Proofs.Jobs.FullSync
import GovernanceIndex.Proofs.Tally.Monotonicity
import GovernanceIndex.Proofs.Sync.BackfillAccounts
import GovernanceIndex.Proofs.Ledger.RetryLoop
import GovernanceIndex.Proofs.Ledger.Exchanges
import GovernanceIndex.Proofs.Ledger.CompleteReads
import GovernanceIndex.Proofs.Ledger.PageOffsets
import GovernanceIndex.Proofs.Ledger.ReturnedLists
import GovernanceIndex.Proofs.Sync.QuietRuns
import GovernanceIndex.Proofs.Sync.DelegatorTargets
import GovernanceIndex.Proofs.Sync.DelegatorSummaries
import GovernanceIndex.Proofs.Jobs.EpochUpkeep
import GovernanceIndex.Proofs.Jobs.DelegatorCoverage
import GovernanceIndex.Proofs.Tally.Conservation
import GovernanceIndex.Proofs.Tally.Cutover
import GovernanceIndex.Proofs.Tally.VoteCounters
import GovernanceIndex.Proofs.Tally.StandingVotes
import GovernanceIndex.Proofs.Sync.HistoryReplay
import GovernanceIndex.Proofs.Sync.GivenReplies
import GovernanceIndex.Proofs.Ledger.AvoidedEndpoints
import GovernanceIndex.Proofs.Sync.SentRequests
import GovernanceIndex.Proofs.Sync.RepeatedCycle
import GovernanceIndex.Proofs.Sync.BackfillSplit
import GovernanceIndex.Proofs.Store.LockRows
import GovernanceIndex.Proofs.Run.FanOutWindow
import GovernanceIndex.Proofs.Sync.CommittedHistories
import GovernanceIndex.Proofs.Jobs.OrderlyRuns
import GovernanceIndex.Proofs.Jobs.LastRuns
import GovernanceIndex.Proofs.Admin.RunReports
import GovernanceIndex.Proofs.Amount
import GovernanceIndex.Proofs.Config
import GovernanceIndex.Proofs.Ledger.RemainingQuota
import GovernanceIndex.Proofs.Record
import GovernanceIndex.Proofs.Backoff
