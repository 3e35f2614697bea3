/-!
Epochs: numbered periods of the ledger, counted from zero in 32 bits.
-/
namespace GovernanceIndex

structure Epoch where
  number : UInt32
  deriving DecidableEq, Repr

namespace Epoch

/-- The number of epochs that can be told apart. -/
def count : Nat := 4294967296

/-- The epoch with a number, which must fit in 32 bits. -/
def ofNat? (n : Nat) : Option Epoch := if n < count then some ⟨UInt32.ofNat n⟩ else none

def toNat (e : Epoch) : Nat := e.number.toNat

def prev? (e : Epoch) : Option Epoch :=
  if e.toNat = 0 then none else some ⟨UInt32.ofNat (e.toNat - 1)⟩

/-- The epoch after; the last epoch is followed by itself. -/
def next (e : Epoch) : Epoch := if e.toNat + 1 < count then ⟨UInt32.ofNat (e.toNat + 1)⟩ else e

def range (first last : Epoch) : List Epoch :=
  (List.range' first.toNat (last.toNat + 1 - first.toNat)).map fun n => ⟨UInt32.ofNat n⟩

def le (a b : Epoch) : Bool := decide (a.toNat ≤ b.toNat)

end Epoch

end GovernanceIndex
