/-!
How a call to the store can fail.
-/
namespace GovernanceIndex

inductive StoreError where
  | conflict (detail : String)
  | notFound (detail : String)
  | storage (detail : String)
  | serialization (detail : String)
  deriving DecidableEq, Repr

def StoreError.message : StoreError → String
  | .conflict detail => "store conflict: " ++ detail
  | .notFound detail => "not found: " ++ detail
  | .storage detail => "storage error: " ++ detail
  | .serialization detail => "serialization error: " ++ detail

end GovernanceIndex
