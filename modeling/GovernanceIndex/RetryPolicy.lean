import GovernanceIndex.Ledger.Error

/-!
When a failed request is sent again, and after which delay. A delay that the service asks for
replaces the computed one; neither is ever longer than the policy's longest delay.
-/
namespace GovernanceIndex

inductive BackoffStrategy where
  | fixed
  | exponential
  deriving DecidableEq, Repr

def BackoffStrategy.names : List (String × BackoffStrategy) :=
  [("fixed", .fixed), ("exponential", .exponential)]

def BackoffStrategy.name : BackoffStrategy → String
  | .fixed => "fixed"
  | .exponential => "exponential"

def BackoffStrategy.encode (s : BackoffStrategy) : Json := .str s.name

def BackoffStrategy.decode : Json → Decoded BackoffStrategy := Json.decodeName names

structure RetryPolicy where
  maxAttempts : UInt32
  baseDelay : Duration
  maxDelay : Duration
  strategy : BackoffStrategy
  deriving DecidableEq, Repr

namespace RetryPolicy

/-- Five attempts, half a second apart at first and half a minute at most. -/
def standard : RetryPolicy := ⟨5, .ofMillis 500, .ofSecs 30, .exponential⟩

def noRetry : RetryPolicy := { standard with maxAttempts := 1 }

def fixed (maxAttempts : UInt32) (delay : Duration) : RetryPolicy :=
  ⟨maxAttempts, delay, delay, .fixed⟩

def exponential (maxAttempts : UInt32) (baseDelay maxDelay : Duration) : RetryPolicy :=
  ⟨maxAttempts, baseDelay, maxDelay, .exponential⟩

/-- How often the base delay is waited after a failed attempt: powers of two, up to the greatest
number of 32 bits. -/
def factor (attempt : Nat) : Nat :=
  if attempt ≤ 32 then Nat.pow 2 (attempt - 1) else Nat.pow 2 32 - 1

/-- The delay after a failed attempt, counted from one. -/
def delayFor (p : RetryPolicy) (attempt : Nat) : Duration :=
  if attempt = 0 then .zero
  else match p.strategy with
    | .fixed => p.baseDelay.min p.maxDelay
    | .exponential => (p.baseDelay.scale (factor attempt)).min p.maxDelay

/-- The delay after a failed attempt when the service may have asked for one. -/
def delayWithHint (p : RetryPolicy) (attempt : Nat) : Option Duration → Duration
  | some hint => hint.min p.maxDelay
  | none => p.delayFor attempt

/-- How many attempts are made at most. -/
def attempts (p : RetryPolicy) : Nat := max 1 p.maxAttempts.toNat

def shouldRetry (p : RetryPolicy) (attempt : Nat) : Bool := decide (attempt < p.attempts)

def encode (p : RetryPolicy) : Json :=
  .obj [("max_attempts", .nat p.maxAttempts.toNat), ("base_delay", p.baseDelay.encode),
    ("max_delay", p.maxDelay.encode), ("strategy", p.strategy.encode)]

def decode (x : Json) : Decoded RetryPolicy := do
  let f ← x.fields ["max_attempts", "base_delay", "max_delay", "strategy"]
  return {
    maxAttempts := ← f.required "max_attempts" Json.decodeUInt32
    baseDelay := ← f.required "base_delay" Duration.decode
    maxDelay := ← f.required "max_delay" Duration.decode
    strategy := ← f.required "strategy" BackoffStrategy.decode }

end RetryPolicy

end GovernanceIndex
