/-!
Tables: finite maps as lists of entries, each key at most once. A new key goes to the end, and a key
that is there keeps its place, so entries come in the order in which their keys were first inserted.
-/
namespace GovernanceIndex

structure Table (κ ν : Type) where
  entries : List (κ × ν) := []
  deriving Repr

namespace Table

variable {κ ν : Type} [DecidableEq κ]

def find? (k : κ) : List (κ × ν) → Option ν
  | [] => none
  | e :: es => if e.1 = k then some e.2 else find? k es

def get? (t : Table κ ν) (k : κ) : Option ν := find? k t.entries

/-- Puts a value for a key in place of any it had, within a list of entries. -/
def put (k : κ) (v : ν) : List (κ × ν) → List (κ × ν)
  | [] => [(k, v)]
  | e :: es => if e.1 = k then (k, v) :: es else e :: put k v es

def insert (t : Table κ ν) (k : κ) (v : ν) : Table κ ν := ⟨put k v t.entries⟩

def erase (t : Table κ ν) (k : κ) : Table κ ν := ⟨t.entries.filter fun e => e.1 ≠ k⟩

def size (t : Table κ ν) : Nat := t.entries.length

def valuesBy (t : Table κ ν) (le : κ → κ → Bool) : List ν :=
  (t.entries.mergeSort fun a b => le a.1 b.1).map Prod.snd

@[simp]
theorem get?_empty (k : κ) : ({} : Table κ ν).get? k = none := rfl

theorem find?_put (es : List (κ × ν)) (k j : κ) (v : ν) :
    find? j (put k v es) = if j = k then some v else find? j es := by
  induction es with
  | nil => by_cases h : k = j <;> simp [put, find?, h, eq_comm]
  | cons e es ih =>
    by_cases hk : e.1 = k
    · by_cases hj : j = k
      · simp [put, find?, hk, hj]
      · simp [put, find?, hk, hj, Ne.symm hj]
    · by_cases hj : e.1 = j
      · have : ¬ j = k := fun h => hk (hj.trans h)
        simp [put, find?, hj, this]
      · simp [put, find?, hk, hj, ih]

theorem get?_insert (t : Table κ ν) (k j : κ) (v : ν) :
    (t.insert k v).get? j = if j = k then some v else t.get? j :=
  find?_put t.entries k j v

end Table

end GovernanceIndex
