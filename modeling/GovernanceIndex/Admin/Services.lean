import GovernanceIndex.Admin.Router
import GovernanceIndex.Config
import GovernanceIndex.Ledger.Http
import GovernanceIndex.Store.Database

/-!
Starting a worker from its configuration.
-/
namespace GovernanceIndex

/-- The wording of a failure to open the store. -/
def DatabaseFault.startMessage (fault : DatabaseFault) : String :=
  "connect to DATABASE_URL: " ++
    (StoreError.storage ("sqlx error in connect: " ++ fault.message)).message

/-- The world of a worker that starts with a configuration and a connection to the ledger service,
under the given name unless the configuration names it. -/
def Config.start {C : Type} (c : Config) (connection : C) (generated : WorkerId)
    (now : Timestamp) : Except DatabaseFault (World (HttpLedger C)) :=
  match c.databaseUrl with
  | some address => .error (Database.connect address)
  | none =>
    .ok {
      ledger := { base := c.ledgerUrl, token := c.ledgerToken, quota := none, connection }
      worker := { id := c.workerId.getD generated }
      now }

end GovernanceIndex
