import GovernanceIndex.Tally.Proposal
import Mathlib.Logic.Basic
import Mathlib.Tactic.SplitIfs

/-!
Ratification. Whether a share meets a threshold is decided exactly, and the truncated share that is
shown meets it in the same cases, since thresholds are whole hundredths and at most one hundred
percent. So the verdict on a proposal can be read off the votes, and agrees with what is shown.
-/
namespace GovernanceIndex

namespace Percent

variable {p : Percent} {part whole : Nat}

/-- The truncated share of a whole is at least a threshold exactly if the share itself is. -/
theorem le_share_iff (hwhole : whole ≠ 0) :
    p.hundredths ≤ (share part whole).hundredths ↔ p.hundredths * whole ≤ part * 10000 := by
  have hle := p.le_hundred
  unfold share ofHundredths
  rw [if_neg hwhole, Nat.le_min, ← Nat.le_div_iff_mul_le (Nat.pos_of_ne_zero hwhole)]
  exact and_iff_left hle

theorem isMetBy_iff :
    p.isMetBy part whole ↔ whole ≠ 0 ∧ p.hundredths ≤ (share part whole).hundredths := by
  unfold isMetBy
  rw [decide_eq_true_iff]
  exact and_congr_right fun hwhole => (le_share_iff hwhole).symm

end Percent

/-- The yes side of a class, and what its share is taken of. -/
structure Support where
  yes : Nat
  whole : Nat
  deriving DecidableEq, Repr

/-- Whether a class meets a threshold exactly: its share is one of something, and large enough. -/
def Support.Meets (x : Support) (p : Percent) : Prop :=
  x.whole ≠ 0 ∧ p.hundredths * x.whole ≤ x.yes * 10000

/-- The share of a class as it is shown, truncated and at most one hundred percent. -/
def Support.shown (x : Support) : Percent := .share x.yes x.whole

theorem Support.meets_iff {x : Support} {p : Percent} :
    x.Meets p ↔ x.whole ≠ 0 ∧ p.hundredths ≤ x.shown.hundredths :=
  and_congr_right fun hwhole => (Percent.le_share_iff hwhole).symm

theorem Support.shown_of_nothing (x : Support) (hnothing : x.whole = 0) : x.shown = .zero := by
  unfold shown Percent.share
  rw [if_pos hnothing]

def BucketMapping.support (m : BucketMapping) : Support := ⟨m.yes, m.denominator⟩

def CommitteeSnapshot.support (k : CommitteeSnapshot) : Support :=
  let cast (vote : Vote) := (CommitteeVote.latest k.votes).countP fun v => v.vote = vote
  ⟨cast .yes, k.rosterSize.toNat - cast .abstain⟩

/-- The support by a class, if there is data on the class. -/
def ProposalSnapshot.support (s : ProposalSnapshot) (cutover : FormulaCutover) :
    VoterClass → Option Support
  | .drep => s.drep.map fun b => (b.drepMapping s.actionType).1.support
  | .spo => s.spo.map fun b =>
    ((cutover.select s.proposalId s.submissionEpoch).mapping b s.actionType).1.support
  | .committee => s.committee.map fun k => k.support

/-- The share that the tally of a class shows, if there is a tally. -/
def ProposalTally.shown (t : ProposalTally) : VoterClass → Option Percent
  | .drep => t.drep.map fun x => x.yesPct
  | .spo => t.spo.map fun x => x.yesPct
  | .committee => t.committee.map fun x => x.yesPct

namespace Ratification

variable {t : ClassThresholds} {check : VoterClass → Percent → Option (Percent × Bool)}

theorem mem_participants {c : VoterClass} {p : Percent} :
    (c, p) ∈ participants t ↔ t.get c = some p := by
  unfold participants
  rw [List.mem_filterMap]
  constructor
  · rintro ⟨d, -, hd⟩
    obtain ⟨q, hq, heq⟩ := Option.map_eq_some_iff.mp hd
    obtain ⟨rfl, rfl⟩ := Prod.mk.inj heq
    exact hq
  · intro hc
    exact ⟨c, by cases c <;> simp, by rw [hc]; rfl⟩

theorem classes_eq (t : ClassThresholds)
    (check : VoterClass → Percent → Option (Percent × Bool)) :
    (evaluate t check).classes.map (fun v => (v.voterClass, v.threshold)) = participants t := by
  unfold evaluate
  rw [List.map_map]
  exact List.map_id' _

theorem mem_classes {v : ClassVerdict} :
    v ∈ (evaluate t check).classes ↔
      t.get v.voterClass = some v.threshold ∧
        (check v.voterClass v.threshold).getD (.zero, false) = (v.yesPct, v.passed) := by
  unfold evaluate
  rw [List.mem_map]
  constructor
  · rintro ⟨⟨c, p⟩, hmem, rfl⟩
    exact ⟨mem_participants.mp hmem, rfl⟩
  · rintro ⟨hget, hcheck⟩
    refine ⟨(v.voterClass, v.threshold), mem_participants.mpr hget, ?_⟩
    dsimp only
    rw [hcheck]

theorem classes_eq_nil_iff (check : VoterClass → Percent → Option (Percent × Bool)) :
    (evaluate t check).classes = [] ↔ ∀ c, t.get c = none := by
  rw [← List.map_eq_nil_iff, classes_eq, List.eq_nil_iff_forall_not_mem]
  constructor
  · intro h c
    rw [Option.eq_none_iff_forall_ne_some]
    exact fun p hp => h (c, p) (mem_participants.mpr hp)
  · rintro h ⟨c, p⟩ hmem
    rw [mem_participants, h c] at hmem
    cases hmem

theorem classes_all_iff :
    (evaluate t check).classes.all (fun v => v.passed) ↔
      ∀ c p, t.get c = some p → ((check c p).getD (.zero, false)).2 := by
  rw [List.all_eq_true]
  constructor
  · intro h c p hget
    exact h ⟨c, p, ((check c p).getD (.zero, false)).1, _⟩ (mem_classes.mpr ⟨hget, rfl⟩)
  · intro h v hv
    obtain ⟨hget, hcheck⟩ := mem_classes.mp hv
    have hpassed := h v.voterClass v.threshold hget
    rwa [hcheck] at hpassed

theorem exists_threshold_iff (check : VoterClass → Percent → Option (Percent × Bool)) :
    (∃ c, t.get c ≠ none) ↔ (evaluate t check).classes ≠ [] := by
  rw [Ne, classes_eq_nil_iff]
  exact not_forall.symm

theorem status_eq (t : ClassThresholds)
    (check : VoterClass → Percent → Option (Percent × Bool)) :
    (evaluate t check).status =
      if (evaluate t check).classes = [] then .notApplicable
      else if (evaluate t check).classes.all fun v => v.passed then .passed
      else .failed := rfl

theorem status_notApplicable_iff :
    (evaluate t check).status = .notApplicable ↔ ∀ c, t.get c = none := by
  rw [← classes_eq_nil_iff check, status_eq]
  split_ifs with hnil hall
  · exact iff_of_true rfl hnil
  · exact iff_of_false nofun hnil
  · exact iff_of_false nofun hnil

theorem status_passed_iff :
    (evaluate t check).status = .passed ↔ (∃ c, t.get c ≠ none) ∧
      ∀ c p, t.get c = some p → ((check c p).getD (.zero, false)).2 := by
  rw [exists_threshold_iff check, ← classes_all_iff, status_eq]
  split_ifs with hnil hall
  · exact iff_of_false nofun fun h => h.1 hnil
  · exact iff_of_true rfl ⟨hnil, hall⟩
  · exact iff_of_false nofun fun h => hall h.2

theorem status_failed_iff :
    (evaluate t check).status = .failed ↔ (∃ c, t.get c ≠ none) ∧
      ¬ ∀ c p, t.get c = some p → ((check c p).getD (.zero, false)).2 := by
  rw [exists_threshold_iff check, ← classes_all_iff, status_eq]
  split_ifs with hnil hall
  · exact iff_of_false nofun fun h => h.1 hnil
  · exact iff_of_false nofun fun h => h.2 hall
  · exact iff_of_true rfl ⟨hnil, hall⟩

end Ratification

namespace ProposalTally

variable (s : ProposalSnapshot) (thresholds : ThresholdTable) (cutover : FormulaCutover)

/-- The check of a class, from its support. -/
def checkSupport (c : VoterClass) (p : Percent) : Option (Percent × Bool) :=
  (s.support cutover c).map fun x => (x.shown, p.isMetBy x.yes x.whole)

theorem ratification_eq :
    (ofSnapshot s thresholds cutover).ratification =
      .evaluate (thresholds.get s.actionType) (checkSupport s cutover) := by
  -- The checks ask for a whole twice, on their own and within the comparison.
  have hvotes (p : Percent) (yes whole : Nat) :
      some (Percent.share yes whole, decide (whole ≠ 0) && p.isMetBy yes whole) =
        some (Percent.share yes whole, p.isMetBy yes whole) := by
    unfold Percent.isMetBy
    by_cases hwhole : whole = 0 <;> simp [hwhole]
  have hcheck : check (s.drep.map fun b => StakeTally.ofDreps b s.actionType)
      ((s.spo.map fun b =>
        StakeTally.ofPools b s.actionType s.proposalId s.submissionEpoch cutover).map Prod.snd)
      (s.committee.map CommitteeTally.ofSnapshot) = checkSupport s cutover := by
    funext c p
    unfold checkSupport ProposalSnapshot.support check
    cases c with
    | drep =>
      rcases s.drep with _ | b
      · rfl
      · exact hvotes p _ _
    | spo =>
      rcases s.spo with _ | b
      · rfl
      · exact hvotes p _ _
    | committee =>
      rcases s.committee with _ | k
      · rfl
      · exact hvotes p _ _
  exact congrArg (Ratification.evaluate (thresholds.get s.actionType)) hcheck

theorem shown_eq (c : VoterClass) :
    (ofSnapshot s thresholds cutover).shown c = (s.support cutover c).map Support.shown := by
  unfold shown ofSnapshot ProposalSnapshot.support
  cases c with
  | drep => rcases s.drep with _ | b <;> rfl
  | spo => rcases s.spo with _ | b <;> rfl
  | committee => rcases s.committee with _ | k <;> rfl

theorem checkSupport_passed (c : VoterClass) (p : Percent) :
    ((checkSupport s cutover c p).getD (.zero, false)).2 ↔
      ∃ x ∈ s.support cutover c, x.Meets p := by
  unfold checkSupport
  rcases s.support cutover c with _ | x
  · simp
  · simp [Support.Meets, Percent.isMetBy]

theorem verdict_of_mem {v : ClassVerdict}
    (hv : v ∈ (ofSnapshot s thresholds cutover).ratification.classes) :
    v.yesPct = ((s.support cutover v.voterClass).map Support.shown).getD .zero ∧
      (v.passed ↔ ∃ x ∈ s.support cutover v.voterClass,
        x.whole ≠ 0 ∧ v.threshold.hundredths ≤ v.yesPct.hundredths) := by
  rw [ratification_eq, Ratification.mem_classes] at hv
  obtain ⟨-, hcheck⟩ := hv
  unfold checkSupport at hcheck
  rcases hsupport : s.support cutover v.voterClass with _ | x <;> rw [hsupport] at hcheck
  · obtain ⟨hshown, hpassed⟩ := Prod.mk.inj hcheck
    exact ⟨hshown.symm, by simp [← hpassed]⟩
  · obtain ⟨hshown, hpassed⟩ := Prod.mk.inj hcheck
    refine ⟨hshown.symm, ?_⟩
    rw [← hpassed, ← hshown, Percent.isMetBy_iff]
    simp [Support.shown]

/-- The verdict on a proposal is the exact one, and what is shown of a class agrees with it: the
truncated share is at least the threshold in the same cases. -/
theorem ratification_exact (s : ProposalSnapshot) (thresholds : ThresholdTable)
    (cutover : FormulaCutover) :
    let t := ofSnapshot s thresholds cutover
    let threshold := (thresholds.get s.actionType).get
    let support := s.support cutover
    let allMeet := ∀ c p, threshold c = some p → ∃ x ∈ support c, x.Meets p
    (t.ratification.status = .notApplicable ↔ ∀ c, threshold c = none) ∧
    (t.ratification.status = .passed ↔ (∃ c, threshold c ≠ none) ∧ allMeet) ∧
    (t.ratification.status = .failed ↔ (∃ c, threshold c ≠ none) ∧ ¬ allMeet) ∧
    t.ratification.classes.map (fun v => (v.voterClass, v.threshold)) =
      [VoterClass.drep, .spo, .committee].filterMap (fun c => (threshold c).map fun p => (c, p)) ∧
    (∀ c, t.shown c = (support c).map Support.shown) ∧
    ∀ v ∈ t.ratification.classes,
      v.yesPct = (t.shown v.voterClass).getD .zero ∧
      (v.passed ↔ ∃ x ∈ support v.voterClass,
        x.whole ≠ 0 ∧ v.threshold.hundredths ≤ v.yesPct.hundredths) := by
  intro t threshold support allMeet
  have hmeet : allMeet ↔ ∀ c p, threshold c = some p →
      ((checkSupport s cutover c p).getD (.zero, false)).2 := by
    simp only [checkSupport_passed]
    exact Iff.rfl
  have hratification : t.ratification = _ := ratification_eq s thresholds cutover
  refine ⟨?_, ?_, ?_, ?_, shown_eq s thresholds cutover, ?_⟩
  · rw [hratification]
    exact Ratification.status_notApplicable_iff
  · rw [hratification, hmeet]
    exact Ratification.status_passed_iff
  · rw [hratification, hmeet]
    exact Ratification.status_failed_iff
  · rw [hratification]
    exact Ratification.classes_eq _ _
  · intro v hv
    rw [shown_eq]
    exact verdict_of_mem s thresholds cutover hv

/-- Two thirds meet a threshold of 66.66 percent and are shown as that much. The proposal fails,
since there is no data on the committee, whose threshold is zero. -/
theorem ratification_exact_two_thirds :
    let s : ProposalSnapshot :=
      { proposalId := ⟨"gov_action1", by decide⟩
        actionType := .parameterChange
        submissionEpoch := ⟨540⟩
        drep := some { total := 3, yes := 2, no := 1, abstain := 0 } }
    let thresholds : ThresholdTable :=
      ⟨[(.parameterChange, ⟨some (.ofHundredths 6666), none, some .zero⟩)]⟩
    let t := ofSnapshot s thresholds {}
    let v : ClassVerdict := ⟨.drep, .ofHundredths 6666, .ofHundredths 6666, true⟩
    v ∈ t.ratification.classes ∧ v.yesPct = (t.shown .drep).getD .zero ∧
      (∃ x ∈ s.support {} .drep,
        x.whole ≠ 0 ∧ v.threshold.hundredths ≤ v.yesPct.hundredths) ∧
      t.ratification.status = .failed := by
  intro s thresholds t v
  have hv : v ∈ t.ratification.classes := by decide
  obtain ⟨-, -, hfailed, -, -, hverdict⟩ := ratification_exact s thresholds {}
  obtain ⟨hshown, hpassed⟩ := hverdict v hv
  refine ⟨hv, hshown, hpassed.mp rfl, hfailed.mpr ⟨⟨.drep, by decide⟩, ?_⟩⟩
  intro hall
  obtain ⟨x, hx, -⟩ := hall .committee .zero rfl
  cases hx

end ProposalTally

end GovernanceIndex
