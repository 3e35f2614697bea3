import GovernanceIndex.Jobs.Lease
import GovernanceIndex.Ledger.Simulated

/-!
Simulations: any number of workers over one simulated ledger service and one store, in which one
action runs at a time. The worker of the world runs the jobs; every other worker keeps what it knows
of its leases between its actions. A cache can be kept from one action to the next.
-/
namespace GovernanceIndex

structure Simulation where
  world : World SimulatedLedger
  workers : Table WorkerId Worker := {}
  kept : JobCache := {}

namespace Simulation

variable {α : Type}

def start (worker : WorkerId) (now : Timestamp) : Simulation :=
  { world := { ledger := {}, worker := { id := worker }, now } }

/-- Runs an action of the worker that runs the jobs. -/
def act (m : Run SimulatedLedger α) (s : Simulation) : Except Halt α × Simulation :=
  let (result, world) := m.run s.world
  (result, { s with world })

def actAs (id : WorkerId) (m : Run SimulatedLedger α) (s : Simulation) :
    Except Halt α × Simulation :=
  let worker := (s.workers.get? id).getD { id }
  let (result, world) := m.run { s.world with worker }
  (result, { s with
    world := { world with worker := s.world.worker }
    workers := s.workers.insert id world.worker })

/-- Runs an action with the kept cache, or with an empty one that is forgotten. -/
def actCached (keep : Bool) (m : Run SimulatedLedger α) (s : Simulation) :
    Except Halt α × Simulation :=
  let cache := if keep then s.kept else {}
  let (result, world) := m.run { s.world with cache }
  (result, { s with world, kept := if keep then world.cache else s.kept })

def arrange (f : SimulatedLedger → SimulatedLedger) (s : Simulation) : Simulation :=
  { s with world := { s.world with ledger := f s.world.ledger } }

/-- Makes a call of a method fail, after so many further calls that pass. -/
def failCall (m : StoreMethod) (after : Nat) (cause : StoreError) (s : Simulation) : Simulation :=
  let plan := (s.world.faults.get? m).getD [] ++ List.replicate after none ++ [some cause]
  { s with world := { s.world with faults := s.world.faults.insert m plan } }

/-- The writes since the last time that they were taken, in their order. -/
def takeWrites (s : Simulation) : List StoreCall × Simulation :=
  (s.world.writes.reverse, { s with world := { s.world with writes := [] } })

def callsOf (s : Simulation) (e : Endpoint) : Nat :=
  s.world.requests.countP fun r => r.2.endpoint = e

end Simulation

end GovernanceIndex
