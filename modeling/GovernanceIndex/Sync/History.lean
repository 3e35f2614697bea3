import GovernanceIndex.Ledger.Payload
import GovernanceIndex.Store.Record

/-!
The change log of an address, replayed from its delegation certificates: one change for each
certificate that names another delegate than the one before it in chain order.
-/
namespace GovernanceIndex

namespace History

/-- The changes along certificates in chain order, from the delegate of the address before them. -/
def changes (address : StakeAddress) (recordedAt : Timestamp) :
    (current : Option DelegateId) → List DelegationUpdate → List DelegationChange
  | _, [] => []
  | current, u :: us =>
    if current = some u.delegate then changes address recordedAt current us
    else
      { address, source := current, target := u.delegate, epoch := u.epoch, recordedAt } ::
        changes address recordedAt (some u.delegate) us

/-- The state behind certificates in chain order; an address without any has no state. -/
def lastState (address : StakeAddress) (updates : List DelegationUpdate) :
    Option DelegationState :=
  updates.getLast?.map fun u => { address, delegate := u.delegate, epochObserved := u.epoch }

/-- The changes and the last state of an address, from its certificates in any order. -/
def replay (address : StakeAddress) (updates : List DelegationUpdate) (recordedAt : Timestamp) :
    List DelegationChange × Option DelegationState :=
  let sorted := DelegationUpdate.sort updates
  (changes address recordedAt none sorted, lastState address sorted)

end History

end GovernanceIndex
