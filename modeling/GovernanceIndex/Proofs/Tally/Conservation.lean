import GovernanceIndex.Tally.Formula
import Mathlib.Algebra.GroupWithZero.Nat
import Mathlib.Algebra.Order.BigOperators.Group.List
import Mathlib.Algebra.Order.Group.Nat

/-!
Stake is conserved. Each rule that maps the buckets of a class puts every active bucket on one side
of the vote, once, so the sides and what has not voted make up the total unless the buckets exceed
it. Shares are truncated one by one: those of all parts of a whole lose less than a hundredth of a
percent each, and together never exceed one hundred percent.
-/
namespace GovernanceIndex

namespace Percent

variable {part whole : Nat} {parts : List Nat}

theorem share_hundredths (hwhole : whole ≠ 0) (hpart : part ≤ whole) :
    (share part whole).hundredths = part * 10000 / whole := by
  unfold share ofHundredths
  rw [if_neg hwhole]
  apply Nat.min_eq_left
  apply Nat.div_le_of_le_mul
  exact Nat.mul_le_mul_right 10000 hpart

/-- The shares of some parts fall short of the share of them all by what truncation takes off. -/
theorem sum_shares_mul (hwhole : whole ≠ 0) (hparts : ∀ part ∈ parts, part ≤ whole) :
    (parts.map fun part => (share part whole).hundredths).sum * whole +
      (parts.map fun part => part * 10000 % whole).sum = parts.sum * 10000 := by
  induction parts with
  | nil => simp
  | cons part parts ih =>
    have hshare := share_hundredths hwhole (hparts part List.mem_cons_self)
    have hpart := Nat.div_add_mod' (part * 10000) whole
    have hrest := ih fun other hother => hparts other (List.mem_cons_of_mem part hother)
    simp only [List.map_cons, List.sum_cons, Nat.add_mul, hshare]
    omega

theorem sum_remainders_lt (hwhole : whole ≠ 0) (hparts : parts ≠ []) :
    (parts.map fun part => part * 10000 % whole).sum < parts.length * whole := by
  induction parts with
  | nil => exact absurd rfl hparts
  | cons part parts ih =>
    have hpart := Nat.mod_lt (part * 10000) (Nat.pos_of_ne_zero hwhole)
    have hrest : (parts.map fun part => part * 10000 % whole).sum ≤ parts.length * whole := by
      rcases parts with _ | ⟨next, rest⟩
      · exact Nat.zero_le _
      · exact Nat.le_of_lt (ih (List.cons_ne_nil next rest))
    simp only [List.map_cons, List.sum_cons, List.length_cons, Nat.add_mul, Nat.one_mul]
    omega

theorem sum_shares (hwhole : whole ≠ 0) (hparts : parts ≠ []) (hsum : parts.sum = whole) :
    let shares := (parts.map fun part => (share part whole).hundredths).sum
    shares ≤ 10000 ∧ 10000 < shares + parts.length := by
  intro shares
  have hle : ∀ part ∈ parts, part ≤ whole := fun part hpart => hsum ▸ List.le_sum_of_mem hpart
  have hmul : shares * whole + _ = parts.sum * 10000 := sum_shares_mul hwhole hle
  have hlt := sum_remainders_lt hwhole hparts
  rw [hsum, Nat.mul_comm whole] at hmul
  constructor
  · apply Nat.le_of_mul_le_mul_right _ (Nat.pos_of_ne_zero hwhole)
    exact hmul ▸ Nat.le_add_right _ _
  · apply Nat.lt_of_mul_lt_mul_right (a := whole)
    rw [Nat.add_mul]
    omega

end Percent

/-- The rules by which the stake of a class is mapped to the sides of a vote. -/
inductive StakeRule where
  | dreps
  | pools (formula : SpoFormula)
  deriving DecidableEq, Repr

namespace StakeRule

def mapping : StakeRule → StakeBuckets → ActionType → BucketMapping × Bool
  | dreps => StakeBuckets.drepMapping
  | pools formula => formula.mapping

def tally (rule : StakeRule) (b : StakeBuckets) (action : ActionType) : StakeTally :=
  .ofMapping (rule.mapping b action).1 (rule.mapping b action).2

example (b : StakeBuckets) (action : ActionType) :
    StakeTally.ofDreps b action = dreps.tally b action := rfl

example (b : StakeBuckets) (action : ActionType) (proposal : ProposalId) (submission : Epoch)
    (cutover : FormulaCutover) :
    StakeTally.ofPools b action proposal submission cutover =
      (cutover.select proposal submission,
        (pools (cutover.select proposal submission)).tally b action) := rfl

end StakeRule

/-- The sides of a mapping make up the active buckets that are named, and what has not voted is
what the named buckets leave of the total, nothing with the flag set if they exceed it. -/
structure StakeBuckets.Conserved (b : StakeBuckets) (mapped : BucketMapping × Bool) : Prop where
  sides : mapped.1.yes + mapped.1.no + mapped.1.abstain + b.inactive = b.named
  rest : (mapped.1.notVoted, mapped.2) = b.notVoted

namespace StakeBuckets

variable (b : StakeBuckets) (action : ActionType)

theorem conserved_drepMapping : b.Conserved (b.drepMapping action) := by
  refine ⟨?_, rfl⟩
  unfold drepMapping named
  by_cases haction : action = .noConfidence <;> simp only [haction, ↓reduceIte] <;> grind

theorem conserved_currentMapping : b.Conserved (SpoFormula.currentMapping b action) := by
  unfold SpoFormula.currentMapping
  -- The standing abstention opposes a hard fork and abstains on any other action.
  cases action <;> refine ⟨?_, rfl⟩ <;> unfold named <;> grind

theorem conserved_mapping (rule : StakeRule) : b.Conserved (rule.mapping b action) := by
  rcases rule with _ | formula
  · exact b.conserved_drepMapping action
  · cases formula with
    | legacy =>
      obtain ⟨hsides, hrest⟩ := b.conserved_drepMapping action
      exact ⟨hsides, hrest⟩
    | current => exact b.conserved_currentMapping action

end StakeBuckets

namespace StakeBuckets.Conserved

variable {b : StakeBuckets} {mapped : BucketMapping × Bool} (h : b.Conserved mapped)
include h

theorem notVoted_eq : mapped.1.notVoted = b.total - b.named := congrArg Prod.fst h.rest

theorem clamped_iff : mapped.2 = true ↔ b.total < b.named := by
  have hclamped : mapped.2 = decide (b.total < b.named) := congrArg Prod.snd h.rest
  rw [hclamped, decide_eq_true_iff]

theorem notVoted_eq_zero (hclamped : mapped.2 = true) : mapped.1.notVoted = 0 := by
  have hlt := h.clamped_iff.mp hclamped
  rw [h.notVoted_eq]
  exact Nat.sub_eq_zero_of_le (Nat.le_of_lt hlt)

theorem sum_eq_total (hclamped : mapped.2 = false) :
    mapped.1.yes + mapped.1.no + mapped.1.abstain + mapped.1.notVoted + b.inactive = b.total := by
  have hle : b.named ≤ b.total := by
    rw [← Nat.not_lt, ← h.clamped_iff, hclamped]
    exact Bool.false_ne_true
  have hrest : mapped.1.notVoted + b.named = b.total := by
    rw [h.notVoted_eq]
    exact Nat.sub_add_cancel hle
  have hsides := h.sides
  grind

end StakeBuckets.Conserved

/-- The parts that a share can be taken of. -/
def BucketMapping.parts (m : BucketMapping) : List Amount :=
  if m.notVotedCounts then [m.yes, m.no, m.notVoted] else [m.yes, m.no]

theorem BucketMapping.sum_parts (m : BucketMapping) : m.parts.sum = m.denominator := by
  unfold parts denominator
  split <;> simp [Nat.add_assoc]

/-- A tally shows the amounts of a mapping, the stake that shares are taken of and the shares, each
of them truncated. -/
structure StakeTally.Shows (t : StakeTally) (m : BucketMapping) (clamped : Bool) : Prop where
  yes : t.yes = m.yes
  no : t.no = m.no
  abstain : t.abstain = m.abstain
  notVoted : t.notVoted = m.notVoted
  denominator : t.denominator = m.yes + m.no + if m.notVotedCounts then m.notVoted else 0
  clamped : t.notVotedClamped = clamped
  yesPct : t.denominator ≠ 0 → t.yesPct.hundredths = m.yes * 10000 / t.denominator
  noPct : t.denominator ≠ 0 → t.noPct.hundredths = m.no * 10000 / t.denominator
  notVotedPct : t.denominator ≠ 0 → m.notVotedCounts →
    t.notVotedPct.hundredths = m.notVoted * 10000 / t.denominator

theorem StakeTally.ofMapping_shows (m : BucketMapping) (clamped : Bool) :
    (ofMapping m clamped).Shows m clamped where
  yes := rfl
  no := rfl
  abstain := rfl
  notVoted := rfl
  denominator := rfl
  clamped := rfl
  yesPct hwhole := by
    apply Percent.share_hundredths hwhole
    exact (Nat.le_add_right m.yes m.no).trans (Nat.le_add_right _ _)
  noPct hwhole := by
    apply Percent.share_hundredths hwhole
    exact (Nat.le_add_left m.no m.yes).trans (Nat.le_add_right _ _)
  notVotedPct hwhole hcounts := by
    have hpart : m.notVoted ≤ m.denominator := by
      unfold BucketMapping.denominator
      rw [if_pos hcounts]
      exact Nat.le_add_left _ _
    unfold ofMapping
    dsimp only
    rw [if_pos hcounts]
    exact Percent.share_hundredths hwhole hpart

def StakeTally.shares (t : StakeTally) : Nat :=
  t.yesPct.hundredths + t.noPct.hundredths + t.notVotedPct.hundredths

theorem StakeTally.shares_ofMapping (m : BucketMapping) (clamped : Bool) :
    (ofMapping m clamped).shares =
      (m.parts.map fun part => (Percent.share part m.denominator).hundredths).sum := by
  unfold shares ofMapping BucketMapping.parts
  split <;> simp [Percent.zero, Percent.ofHundredths, Nat.add_assoc]

theorem StakeTally.shares_eq_zero {m : BucketMapping} (hzero : m.denominator = 0)
    (clamped : Bool) : (ofMapping m clamped).shares = 0 := by
  rw [shares_ofMapping, hzero]
  unfold BucketMapping.parts
  split <;> rfl

/-- The shares of a tally add up to one hundred percent, less than a hundredth for each part. -/
theorem StakeTally.shares_bounds {m : BucketMapping} (hwhole : m.denominator ≠ 0)
    (clamped : Bool) :
    (ofMapping m clamped).shares ≤ 10000 ∧
      10000 < (ofMapping m clamped).shares + m.parts.length := by
  have hparts : m.parts ≠ [] := by
    unfold BucketMapping.parts
    split <;> exact List.cons_ne_nil _ _
  rw [shares_ofMapping]
  exact Percent.sum_shares hwhole hparts m.sum_parts

namespace StakeRule

variable (rule : StakeRule) (b : StakeBuckets) (action : ActionType)

/-- Only the legacy formula for pools leaves out stake that has not voted. -/
theorem notVotedCounts_mapping :
    (rule.mapping b action).1.notVotedCounts = decide (rule ≠ pools .legacy) := by
  rcases rule with _ | formula
  · rfl
  · cases formula with
    | legacy => rfl
    | current => cases action <;> rfl

theorem length_parts_mapping :
    (rule.mapping b action).1.parts.length = if rule = pools .legacy then 2 else 3 := by
  unfold BucketMapping.parts
  rw [rule.notVotedCounts_mapping b action]
  by_cases hlegacy : rule = pools .legacy <;> simp [hlegacy]

/-- No rule loses stake or counts it twice, and what is left of the total is what has not voted,
which counts by every rule but one. The tally shows what the rule made of the buckets, and its shares
add up. -/
theorem stake_conserved (rule : StakeRule) (b : StakeBuckets) (action : ActionType) :
    let m := (rule.mapping b action).1
    let clamped := (rule.mapping b action).2
    let t := rule.tally b action
    m.yes + m.no + m.abstain = b.named - b.inactive ∧
      (clamped ↔ b.total < b.named) ∧
      (m.notVotedCounts ↔ rule ≠ pools .legacy) ∧
      (¬ clamped → m.yes + m.no + m.abstain + m.notVoted + b.inactive = b.total ∧
        (m.notVotedCounts → m.denominator + m.abstain + b.inactive = b.total)) ∧
      (clamped → m.notVoted = 0) ∧
      t.Shows m clamped ∧
      (t.denominator = 0 → t.shares = 0) ∧
      (t.denominator ≠ 0 → 9998 ≤ t.shares ∧ t.shares ≤ 10000) ∧
      (rule = pools .legacy →
        t.notVotedPct = .zero ∧ (t.denominator ≠ 0 → 9999 ≤ t.shares)) := by
  intro m clamped t
  have h : b.Conserved (m, clamped) := b.conserved_mapping action rule
  have hcounts : m.notVotedCounts = decide (rule ≠ pools .legacy) :=
    rule.notVotedCounts_mapping b action
  have hlength : m.parts.length = _ := rule.length_parts_mapping b action
  refine ⟨?_, h.clamped_iff, ?_, ?_, h.notVoted_eq_zero, StakeTally.ofMapping_shows m clamped, ?_,
    ?_, ?_⟩
  · rw [← h.sides]
    exact (Nat.add_sub_cancel _ _).symm
  · rw [hcounts, decide_eq_true_iff]
  · intro hclamped
    have htotal := h.sum_eq_total (Bool.eq_false_iff.mpr hclamped)
    refine ⟨htotal, ?_⟩
    intro hnotVoted
    unfold BucketMapping.denominator
    rw [if_pos hnotVoted]
    grind
  · exact fun hzero => StakeTally.shares_eq_zero hzero clamped
  · intro hwhole
    obtain ⟨hle, hlt⟩ : t.shares ≤ 10000 ∧ 10000 < t.shares + m.parts.length :=
      StakeTally.shares_bounds hwhole clamped
    split at hlength <;> omega
  · intro hlegacy
    rw [if_pos hlegacy] at hlength
    constructor
    · have hout : m.notVotedCounts = false := by simp [hcounts, hlegacy]
      exact if_neg (Bool.eq_false_iff.mp hout)
    · intro hwhole
      obtain ⟨-, hlt⟩ : t.shares ≤ 10000 ∧ 10000 < t.shares + m.parts.length :=
        StakeTally.shares_bounds hwhole clamped
      omega

/-- One seventh voted for the action, one against it and five have not voted; each of the shares is
truncated, and two hundredths are missing from their sum. -/
theorem stake_conserved_sevenths :
    let b : StakeBuckets := ⟨12, 1, 0, 2, 1, 1, 2⟩
    let m := (dreps.mapping b .infoAction).1
    let t := dreps.tally b .infoAction
    m = ⟨1, 1, 3, 5, true⟩ ∧ m.denominator + m.abstain + b.inactive = b.total ∧
      t.Shows m false ∧ t.shares = 9998 ∧ 9998 ≤ t.shares ∧ t.shares ≤ 10000 := by
  intro b m t
  obtain ⟨-, -, hcounts, htotal, -, hshows, -, hshares, -⟩ := stake_conserved dreps b .infoAction
  obtain ⟨-, hwhole⟩ := htotal (by decide)
  exact ⟨rfl, hwhole (hcounts.mpr (by decide)), hshows, by decide, hshares (by decide)⟩

end StakeRule

end GovernanceIndex
