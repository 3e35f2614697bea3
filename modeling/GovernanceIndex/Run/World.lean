import GovernanceIndex.Ledger.Request
import GovernanceIndex.Store.Call

/-!
The world of a worker: the ledger service and the store that it calls, its clock, the leases it
knows to hold, and what it remembers within a job.

Time passes only while the worker waits. The leases of running jobs are renewed whenever their
heartbeats fall due in the time that passes, in the order of time.
-/
namespace GovernanceIndex

structure Worker where
  id : WorkerId
  held : List String := []
  deriving DecidableEq, Repr

/-- What is read once and remembered for the rest of a job. -/
structure JobCache where
  tip : Option Epoch := none
  inventories : Table Epoch (List DelegateSnapshot) := {}

/-- The periodic renewal of the lease of a running job: when it started, in milliseconds, and how
often it fell due since. -/
structure Heartbeat where
  job : String
  lease : Duration
  start : Nat
  beaten : Nat := 0
  deriving DecidableEq, Repr

namespace Heartbeat

/-- The nanoseconds between two beats: a third of the lease, but at least a millisecond. -/
def period (h : Heartbeat) : Nat := max 1000000 h.lease.third.nanos

/-- How often a heartbeat falls due from its start until a time. -/
def count (h : Heartbeat) (time : Nat) : Nat := (time - h.start) * 1000000 / h.period

/-- The millisecond in which a beat falls due, counted from one. -/
def due (h : Heartbeat) (beat : Nat) : Nat :=
  (h.start * 1000000 + beat * h.period + 999999) / 1000000

/-- The times of the beats that are still to come until a time. -/
def times (h : Heartbeat) (time : Nat) : List Nat :=
  (List.range' (h.beaten + 1) (h.count time - h.beaten)).map h.due

def later (h : Heartbeat) (time : Nat) : Heartbeat :=
  { h with beaten := max h.beaten (h.count time) }

end Heartbeat

/-- The world of a worker. Requests are kept with the time at which they were sent, and the writes
that reached the store, the last one first. A list of faults says of each coming call of a method
whether it fails. The clock counts milliseconds, and time stops at the deadline. -/
structure World (L : Type) where
  ledger : L
  store : Store := {}
  worker : Worker
  now : Timestamp
  cache : JobCache := {}
  requests : List (Nat × Request) := []
  writes : List StoreCall := []
  faults : Table StoreMethod (List (Option StoreError)) := {}
  clock : Nat := 0
  heartbeats : List Heartbeat := []
  deadline : Option Nat := none

namespace World

variable {L : Type}

/-- The fault that the next call of a method meets, and the world without it. -/
def takeFault (w : World L) (m : StoreMethod) : Option StoreError × World L :=
  match w.faults.get? m with
  | some (fault :: rest) => (fault, { w with faults := w.faults.insert m rest })
  | _ => (none, w)

/-- The world with a call noted if it writes. -/
def note (w : World L) (c : StoreCall) : World L :=
  if c.isWrite then { w with writes := c :: w.writes } else w

/-- A call to the store: it fails without a trace if a fault meets it. -/
def call (w : World L) (c : StoreCall) : Except StoreError c.Result × World L :=
  match w.takeFault c.method with
  | (some cause, w) => (.error cause, w)
  | (none, w) =>
    let w := w.note c
    match w.store.perform c with
    | .ok (result, store) => (.ok result, { w with store })
    | .error cause => (.error cause, w)

def ask [LedgerService L] (w : World L) (q : Request) : q.Reply × World L :=
  let (reply, ledger) := LedgerService.react w.ledger q
  (reply, { w with ledger, requests := (w.clock, q) :: w.requests })

/-- The renewal of the lease of a job, whose outcome does not matter. -/
def beat (w : World L) (h : Heartbeat) : World L :=
  (w.call (.renewLease h.job w.worker.id w.now h.lease)).2

/-- The heartbeats that fall due until a time, in the order of time. -/
def beats (w : World L) (time : Nat) : List Heartbeat :=
  let due := w.heartbeats.flatMap fun h => (h.times time).map fun t => (t, h)
  (due.mergeSort fun a b => decide (a.1 ≤ b.1)).map Prod.snd

/-- Lets time pass until a time that has not passed yet. -/
def advance (w : World L) (time : Nat) : World L :=
  let beaten := (w.beats time).foldl beat w
  { beaten with
    clock := max w.clock time, heartbeats := w.heartbeats.map fun h => h.later time }

end World

end GovernanceIndex
