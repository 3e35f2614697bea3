import GovernanceIndex.Json.Decode

/-!
Lengths of time in whole nanoseconds, less than 2^64 seconds. Arithmetic stops at the longest one.
-/
namespace GovernanceIndex

abbrev nanosPerSecond : Nat := 1000000000

/-- The lengths of time that can be told apart, less one of them, in nanoseconds. -/
abbrev Duration.maxNanos : Nat := 18446744073709551616 * nanosPerSecond - 1

structure Duration where
  nanos : Nat
  le_max : nanos ≤ Duration.maxNanos

namespace Duration

@[ext]
theorem ext {a b : Duration} (h : a.nanos = b.nanos) : a = b := by
  cases a; cases b; cases h; rfl

instance : DecidableEq Duration := fun a b =>
  if h : a.nanos = b.nanos then .isTrue (ext h) else .isFalse fun e => h (e ▸ rfl)

instance : Repr Duration := ⟨fun d _ => repr d.nanos⟩

/-- The length of so many nanoseconds, or the longest one if that is too many. -/
def ofNanos (n : Nat) : Duration := ⟨min n maxNanos, Nat.min_le_right _ _⟩

def ofSecs (n : UInt64) : Duration := ofNanos (n.toNat * nanosPerSecond)

def ofMillis (n : UInt64) : Duration := ofNanos (n.toNat * 1000000)

def zero : Duration := ofNanos 0

def secs (d : Duration) : Nat := d.nanos / nanosPerSecond

def subsecNanos (d : Duration) : Nat := d.nanos % nanosPerSecond

def min (a b : Duration) : Duration := if a.nanos ≤ b.nanos then a else b

/-- So many times as long, up to the longest length. -/
def scale (d : Duration) (k : Nat) : Duration := ofNanos (d.nanos * k)

def add? (a b : Duration) : Option Duration :=
  if h : a.nanos + b.nanos ≤ maxNanos then some ⟨a.nanos + b.nanos, h⟩ else none

def third (d : Duration) : Duration := ofNanos (d.nanos / 3)

def ceilMillis (d : Duration) : Nat := (d.nanos + 999999) / 1000000

/-- A length with its unit, with as many decimal places as it needs. -/
def text (d : Duration) : String :=
  let unit (whole part places : Nat) (name : String) : String :=
    let digits := Nat.toDigits 10 part
    let padded := List.replicate (places - digits.length) '0' ++ digits
    let shown := (padded.reverse.dropWhile (· = '0')).reverse
    toString whole ++ (if part = 0 then "" else "." ++ String.ofList shown) ++ name
  if 0 < d.secs then unit d.secs d.subsecNanos 9 "s"
  else if 1000000 ≤ d.nanos then unit (d.nanos / 1000000) (d.nanos % 1000000) 6 "ms"
  else if 1000 ≤ d.nanos then unit (d.nanos / 1000) (d.nanos % 1000) 3 "µs"
  else toString d.nanos ++ "ns"

def encode (d : Duration) : Json :=
  .obj [("secs", .nat d.secs), ("nanos", .nat d.subsecNanos)]

/-- Decodes a record of seconds and nanoseconds; unknown fields are refused, and nanoseconds carry
into the seconds. -/
def decode (x : Json) : Decoded Duration := do
  let known := match x with
    | .object fs => fs.all fun f => f.1 = some "secs" || f.1 = some "nanos"
    | _ => true
  if known then
    let f ← x.fields ["secs", "nanos"]
    let secs ← f.required "secs" Json.decodeUInt64
    let nanos ← f.required "nanos" Json.decodeUInt32
    let total := secs.toNat * nanosPerSecond + nanos.toNat
    if h : total ≤ maxNanos then return ⟨total, h⟩ else throw .shape
  else throw .shape

end Duration

end GovernanceIndex
