import GovernanceIndex.Ledger.Error
import GovernanceIndex.Store.Error
import GovernanceIndex.Store.Record

/-!
Why a sync fails: the ledger service or the store does, some lookups of a step do, or the chain has
not completed an epoch yet.
-/
namespace GovernanceIndex

inductive SyncError where
  | ledger (cause : LedgerError)
  | store (cause : StoreError)
  | stepIncomplete (epoch : Epoch) (step : EpochStep) (failed total : Nat)
  | noCompletedEpoch (tip : Epoch)
  deriving DecidableEq, Repr

def SyncError.message : SyncError → String
  | .ledger cause => cause.message
  | .store cause => cause.message
  | .stepIncomplete epoch step failed total =>
    "epoch " ++ toString epoch.toNat ++ " step " ++ step.name ++ " incomplete: " ++
      toString failed ++ " of " ++ toString total ++ " entities failed"
  | .noCompletedEpoch tip => "no completed epoch at tip " ++ toString tip.toNat

end GovernanceIndex
