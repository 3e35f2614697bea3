import GovernanceIndex.Run.World
import GovernanceIndex.Sync.Error

/-!
What a worker does, as actions on its world. An action ends with a result or comes to a halt: it
fails, it crashes, or its time is up. Whatever happened to the world up to a halt stays.
-/
namespace GovernanceIndex

/-- Why an action came to a halt. A crash may carry a text. -/
inductive Halt where
  | failed (cause : SyncError)
  | crashed (text : Option String)
  | timeUp
  deriving DecidableEq, Repr

/-- An action of a worker. -/
abbrev Run (L : Type) := ExceptT Halt (StateM (World L))

namespace Run

variable {L : Type} {α : Type}

def fail (cause : SyncError) : Run L α := throw (.failed cause)

def crash (text : String) : Run L α := throw (.crashed (some text))

def onWorld (f : World L → α × World L) : Run L α := fun w =>
  let (a, w) := f w
  (.ok a, w)

def outcome (m : Run L α) : Run L (Except Halt α) := fun w =>
  let (r, w) := m w
  (.ok r, w)

/-- The result of an action or the cause of its failure; other halts pass through. -/
def attempt (m : Run L α) : Run L (Except SyncError α) := do
  match ← m.outcome with
  | .ok a => return .ok a
  | .error (.failed cause) => return .error cause
  | .error halt => throw halt

/-- Calls the store. -/
def call (c : StoreCall) : Run L c.Result := do
  match ← onWorld fun w => w.call c with
  | .ok result => return result
  | .error cause => fail (.store cause)

/-- Calls the store and goes on whether or not the call fails. -/
def tryCall (c : StoreCall) : Run L Unit := onWorld fun w => ((), (w.call c).2)

def ask [LedgerService L] (q : Request) : Run L q.Reply := onWorld fun w => w.ask q

def answer {q : Request} : q.Reply → Run L q.Answer
  | .ok a => return a
  | .error cause => fail (.ledger cause)

/-- Waits until a time, or until the deadline if that comes first. -/
def waitUntil (time : Nat) : Run L Unit := do
  let w ← get
  match w.deadline with
  | none => set (w.advance time)
  | some deadline =>
    if time ≤ deadline then set (w.advance time)
    else
      set (w.advance deadline)
      throw .timeUp

/-- The longest wait in milliseconds, which is thirty years; a wait for longer ends after it. -/
def longestWait : Nat := 30 * 365 * 86400 * 1000

def waitMillis (d : Duration) : Nat := min d.ceilMillis longestWait

def wait (d : Duration) : Run L Unit := do waitUntil ((← get).clock + waitMillis d)

end Run

end GovernanceIndex
