import GovernanceIndex.Codec
import GovernanceIndex.Tally.Percent

/-!
Thresholds per action type and class, and the verdict on a proposal: every class with a threshold
takes part, a class without a tally fails, and an action without thresholds has no verdict.
-/
namespace GovernanceIndex

structure ClassThresholds where
  drep : Option Percent := none
  spo : Option Percent := none
  committee : Option Percent := none
  deriving DecidableEq, Repr

def ClassThresholds.get (t : ClassThresholds) : VoterClass → Option Percent
  | .drep => t.drep
  | .spo => t.spo
  | .committee => t.committee

/-- Thresholds by action type, each type at most once. -/
structure ThresholdTable where
  entries : List (ActionType × ClassThresholds) := []
  deriving DecidableEq, Repr

namespace ThresholdTable

/-- Puts the thresholds of an action type in place of any it had. -/
def insert (t : ThresholdTable) (action : ActionType) (c : ClassThresholds) : ThresholdTable :=
  ⟨t.entries.filter (fun e => e.1 ≠ action) ++ [(action, c)]⟩

/-- The thresholds of an action type; none for a type that the table leaves out. -/
def get (t : ThresholdTable) (action : ActionType) : ClassThresholds :=
  (t.entries.lookup action).getD {}

/-- A table with the given thresholds; of two for one type the later ones hold. -/
def ofList (entries : List (ActionType × ClassThresholds)) : ThresholdTable :=
  entries.foldl (fun t e => t.insert e.1 e.2) {}

def mainnet : ThresholdTable :=
  let p (n : Nat) : Option Percent := some (.ofWhole n)
  .ofList [(.noConfidence, ⟨p 67, p 51, none⟩), (.updateCommittee, ⟨p 67, p 51, none⟩),
    (.newConstitution, ⟨p 75, none, p 67⟩), (.hardForkInitiation, ⟨p 60, p 51, p 67⟩),
    (.parameterChange, ⟨p 67, none, p 67⟩), (.treasuryWithdrawals, ⟨p 67, none, p 67⟩),
    (.infoAction, {})]

end ThresholdTable

structure ClassVerdict where
  voterClass : VoterClass
  threshold : Percent
  yesPct : Percent
  passed : Bool
  deriving DecidableEq, Repr

inductive RatificationStatus where
  | passed
  | failed
  | notApplicable
  deriving DecidableEq, Repr

structure Ratification where
  status : RatificationStatus
  classes : List ClassVerdict
  deriving DecidableEq, Repr

namespace Ratification

/-- The classes with a threshold, in the order of the verdicts. -/
def participants (t : ClassThresholds) : List (VoterClass × Percent) :=
  [VoterClass.drep, .spo, .committee].filterMap fun c => (t.get c).map fun p => (c, p)

/-- The verdict, where `check` gives the share of a class and whether it meets the threshold. -/
def evaluate (t : ClassThresholds) (check : VoterClass → Percent → Option (Percent × Bool)) :
    Ratification :=
  let classes := (participants t).map fun (c, threshold) =>
    let (yesPct, passed) := (check c threshold).getD (.zero, false)
    ClassVerdict.mk c threshold yesPct passed
  let status :=
    if classes = [] then .notApplicable
    else if classes.all fun v => v.passed then .passed
    else .failed
  ⟨status, classes⟩

end Ratification

def ClassThresholds.encode (t : ClassThresholds) : Json :=
  .obj [("drep", .optional Percent.encode t.drep), ("spo", .optional Percent.encode t.spo),
    ("committee", .optional Percent.encode t.committee)]

def ClassThresholds.decode (x : Json) : Decoded ClassThresholds := do
  let f ← x.fields ["drep", "spo", "committee"]
  return {
    drep := ← f.nullable "drep" Percent.decode
    spo := ← f.nullable "spo" Percent.decode
    committee := ← f.nullable "committee" Percent.decode }

def ThresholdTable.encode (t : ThresholdTable) : Json :=
  .obj [("entries", .obj (t.entries.map fun e => (e.1.name, e.2.encode)))]

def ThresholdTable.decodeEntries :
    List (Option String × Json) → Decoded (List (ActionType × ClassThresholds))
  | [] => .ok []
  | (name, x) :: fs => do
    let action ← ActionType.decode (.text name)
    return (action, ← ClassThresholds.decode x) :: (← decodeEntries fs)

/-- Decodes a table; of two entries for one action type the later one holds. -/
def ThresholdTable.decode (x : Json) : Decoded ThresholdTable := do
  let f ← x.fields ["entries"]
  f.required "entries" fun
    | .object fs => (decodeEntries fs).map ofList
    | _ => .error .shape

def ClassVerdict.encode (v : ClassVerdict) : Json :=
  .obj [("class", v.voterClass.encode), ("threshold", v.threshold.encode),
    ("yes_pct", v.yesPct.encode), ("passed", .bool v.passed)]

def ClassVerdict.decode (x : Json) : Decoded ClassVerdict := do
  let f ← x.fields ["class", "threshold", "yes_pct", "passed"]
  return {
    voterClass := ← f.required "class" VoterClass.decode
    threshold := ← f.required "threshold" Percent.decode
    yesPct := ← f.required "yes_pct" Percent.decode
    passed := ← f.required "passed" Json.decodeBool }

def RatificationStatus.names : List (String × RatificationStatus) :=
  [("passed", .passed), ("failed", .failed), ("not_applicable", .notApplicable)]

def RatificationStatus.name : RatificationStatus → String
  | .passed => "passed"
  | .failed => "failed"
  | .notApplicable => "not_applicable"

def Ratification.encode (r : Ratification) : Json :=
  .obj [("status", .str r.status.name), ("classes", Json.encodeList ClassVerdict.encode r.classes)]

def Ratification.decode (x : Json) : Decoded Ratification := do
  let f ← x.fields ["status", "classes"]
  return {
    status := ← f.required "status" (Json.decodeName RatificationStatus.names)
    classes := ← f.required "classes" (Json.decodeList ClassVerdict.decode) }

end GovernanceIndex
