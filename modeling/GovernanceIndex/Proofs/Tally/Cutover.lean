import GovernanceIndex.Proofs.Tally.Monotonicity

/-!
The cutover between the formulas for the stake of pools. Both have the same yes side, but the
current one takes its share of more: stake that has not voted counts, and on a hard fork the
standing abstention opposes. So a proposal that comes under the current formula is shown with no
greater share, and misses every positive threshold that it missed before. With a threshold of zero
this is different, since the legacy formula may have nothing to take a share of.
-/
namespace GovernanceIndex

/-- The yes side of a class stayed, and its share is taken of no less. -/
structure Support.Dilutes (x x' : Support) : Prop where
  yes : x'.yes = x.yes
  whole : x.whole ≤ x'.whole
  part : x.yes ≤ x.whole

namespace Support.Dilutes

variable {x x' : Support} {p : Percent}

theorem meets (h : Dilutes x x') (hp : 0 < p.hundredths) (hmeets : x'.Meets p) : x.Meets p := by
  obtain ⟨hwhole', hmeets'⟩ := hmeets
  constructor
  · -- Nothing has no yes side, which would meet no positive threshold.
    intro hnothing
    have hyes : x'.yes = 0 := by
      rw [h.yes]
      exact Nat.eq_zero_of_le_zero (hnothing ▸ h.part)
    have hpos : 0 < p.hundredths * x'.whole := Nat.mul_pos hp (Nat.pos_of_ne_zero hwhole')
    rw [hyes] at hmeets'
    omega
  · calc p.hundredths * x.whole
        ≤ p.hundredths * x'.whole := Nat.mul_le_mul_left _ h.whole
      _ ≤ x'.yes * 10000 := hmeets'
      _ = x.yes * 10000 := by rw [h.yes]

theorem shown_le (h : Dilutes x x') : x'.shown.hundredths ≤ x.shown.hundredths := by
  rcases Nat.eq_zero_or_pos x'.shown.hundredths with hzero | hpos
  · rw [hzero]
    exact Nat.zero_le _
  · have hwhole' : x'.whole ≠ 0 := by
      intro hnothing
      rw [x'.shown_of_nothing hnothing] at hpos
      exact Nat.lt_irrefl 0 hpos
    exact (meets_iff.mp (h.meets hpos (meets_iff.mpr ⟨hwhole', Nat.le_refl _⟩))).2

end Support.Dilutes

/-- Stake is mapped to the same yes side, to no more abstentions, and to no less to take shares
of. -/
structure BucketMapping.Hardens (m m' : BucketMapping) : Prop where
  yes : m'.yes = m.yes
  abstain : m'.abstain ≤ m.abstain
  denominator : m.denominator ≤ m'.denominator

namespace BucketMapping

variable {m m' : BucketMapping}

theorem Hardens.dilutes (h : m.Hardens m') : m.support.Dilutes m'.support := by
  refine ⟨h.yes, h.denominator, ?_⟩
  exact Nat.le_trans (Nat.le_add_right m.yes m.no) (Nat.le_add_right _ _)

theorem meets_tally (m : BucketMapping) (clamped : Bool) (p : Percent) :
    (StakeTally.ofMapping m clamped).meets p ↔ m.support.Meets p := decide_eq_true_iff

/-- The tally of a harder mapping, whatever was clamped. -/
theorem Hardens.tally (h : m.Hardens m') (clamped clamped' : Bool) :
    let t := StakeTally.ofMapping m clamped
    let t' := StakeTally.ofMapping m' clamped'
    t'.yes = t.yes ∧ t'.abstain ≤ t.abstain ∧ t.denominator ≤ t'.denominator ∧
      t'.yesPct.hundredths ≤ t.yesPct.hundredths ∧
      ∀ p : Percent, 0 < p.hundredths → t'.meets p → t.meets p := by
  refine ⟨h.yes, h.abstain, h.denominator, h.dilutes.shown_le, fun p hp hmeets => ?_⟩
  rw [meets_tally] at hmeets ⊢
  exact h.dilutes.meets hp hmeets

end BucketMapping

theorem SpoFormula.hardens (b : StakeBuckets) (action : ActionType) :
    (legacyMapping b action).1.Hardens (currentMapping b action).1 := by
  unfold legacyMapping currentMapping StakeBuckets.drepMapping
  -- On a hard fork the standing abstention opposes, and elsewhere only the rest is counted in.
  cases action <;> constructor <;> simp only [BucketMapping.denominator, reduceCtorEq, ↓reduceIte,
    Bool.false_eq_true, Nat.le_refl] <;> grind

/-- The cutover of a proposal is moved forward: its epoch is lowered, or it names the proposal. -/
inductive FormulaCutover.Forward (proposal : ProposalId) (c : FormulaCutover) :
    FormulaCutover → Prop
  | lowered {epoch : Epoch} (h : epoch.toNat ≤ c.transitionEpoch.toNat) :
    Forward proposal c { c with transitionEpoch := epoch }
  | named : Forward proposal c { c with transitionProposal := some proposal }

namespace FormulaCutover

variable {c c' : FormulaCutover} {proposal : ProposalId} {submission : Epoch}

theorem select_eq_current :
    c.select proposal submission = .current ↔
      c.transitionProposal = some proposal ∨ c.transitionEpoch.toNat ≤ submission.toNat := by
  unfold select
  split <;> simp_all

theorem ofPools_eq (b : StakeBuckets) (action : ActionType) {formula : SpoFormula}
    (h : c.select proposal submission = formula) :
    StakeTally.ofPools b action proposal submission c =
      (formula, .ofMapping (formula.mapping b action).1 (formula.mapping b action).2) := by
  subst h
  rfl

theorem Forward.select (h : Forward proposal c c')
    (hc : c.select proposal submission = .current) : c'.select proposal submission = .current := by
  rw [select_eq_current] at hc ⊢
  cases h with
  | lowered hepoch => exact hc.imp_right (Nat.le_trans hepoch)
  | named => exact .inl rfl

theorem support_of_ne (s : ProposalSnapshot) (c c' : FormulaCutover) {voters : VoterClass}
    (h : voters ≠ .spo) : s.support c' voters = s.support c voters := by
  cases voters with
  | drep => rfl
  | committee => rfl
  | spo => exact absurd rfl h

/-- Where the cutover is moved forward, the share of pools is taken of more if it changes. -/
theorem Forward.support {s : ProposalSnapshot} (h : Forward s.proposalId c c') :
    s.support c' .spo = s.support c .spo ∨
      ∃ x x', s.support c .spo = some x ∧ s.support c' .spo = some x' ∧ x.Dilutes x' := by
  unfold ProposalSnapshot.support
  rcases s.spo with _ | b
  · exact .inl rfl
  rcases hc : c.select s.proposalId s.submissionEpoch with _ | _
  · rcases c'.select s.proposalId s.submissionEpoch with _ | _
    · exact .inl rfl
    · exact .inr ⟨_, _, rfl, rfl, (SpoFormula.hardens b s.actionType).dilutes⟩
  · exact .inl (by rw [h.select hc])

end FormulaCutover

/-- The second verdict is about the same threshold of the same class. It is the same unless the
class is that of pools, and then no better if the threshold is positive. -/
structure ClassVerdict.Stiffens (v v' : ClassVerdict) : Prop where
  voterClass : v'.voterClass = v.voterClass
  threshold : v'.threshold = v.threshold
  yesPct : v'.yesPct.hundredths ≤ v.yesPct.hundredths
  passed : 0 < v.threshold.hundredths → v'.passed → v.passed
  other : v.voterClass ≠ .spo → v' = v

namespace FormulaCutover

variable {c c' : FormulaCutover} {s : ProposalSnapshot}

open ProposalTally (checkSupport checkSupport_passed)

theorem Forward.shown_le (h : Forward s.proposalId c c') (voters : VoterClass) (p : Percent) :
    ((checkSupport s c' voters p).getD (.zero, false)).1.hundredths ≤
      ((checkSupport s c voters p).getD (.zero, false)).1.hundredths := by
  unfold checkSupport
  by_cases hvoters : voters = .spo
  · subst hvoters
    rcases h.support with hsame | ⟨x, x', hx, hx', hdilutes⟩
    · exact hsame ▸ Nat.le_refl _
    · rw [hx, hx']
      exact hdilutes.shown_le
  · exact support_of_ne s c c' hvoters ▸ Nat.le_refl _

theorem Forward.passed (h : Forward s.proposalId c c') {voters : VoterClass} {p : Percent}
    (hp : voters = .spo → 0 < p.hundredths)
    (hpassed : ((checkSupport s c' voters p).getD (.zero, false)).2) :
    ((checkSupport s c voters p).getD (.zero, false)).2 := by
  rw [checkSupport_passed] at hpassed ⊢
  by_cases hvoters : voters = .spo
  · subst hvoters
    rcases h.support with hsame | ⟨x, x', hx, hx', hdilutes⟩
    · rwa [hsame] at hpassed
    · obtain ⟨y, hy, hmeets⟩ := hpassed
      obtain rfl : x' = y := Option.some.inj (hx'.symm.trans hy)
      exact ⟨x, hx, hdilutes.meets (hp rfl) hmeets⟩
  · rwa [support_of_ne s c c' hvoters] at hpassed

/-- The current formula for pools is never more lenient than the legacy one, so a proposal whose
cutover is moved forward passes no class that it failed, nor passes itself if it failed, as long as
the threshold of pools is positive. -/
theorem current_stricter (c c' : FormulaCutover) :
    (∀ b action proposal submission,
      let t := StakeTally.ofPools b action proposal submission c
      let t' := StakeTally.ofPools b action proposal submission c'
      t.1 = .legacy → t'.1 = .current →
        t'.2.yes = t.2.yes ∧ t'.2.abstain ≤ t.2.abstain ∧ t.2.denominator ≤ t'.2.denominator ∧
          t'.2.yesPct.hundredths ≤ t.2.yesPct.hundredths ∧
          ∀ p : Percent, 0 < p.hundredths → t'.2.meets p → t.2.meets p) ∧
    ∀ (s : ProposalSnapshot) (thresholds : ThresholdTable), Forward s.proposalId c c' →
      let t := ProposalTally.ofSnapshot s thresholds c
      let t' := ProposalTally.ofSnapshot s thresholds c'
      List.Forall₂ ClassVerdict.Stiffens t.ratification.classes t'.ratification.classes ∧
        ((∀ p, (thresholds.get s.actionType).spo = some p → 0 < p.hundredths) →
          t'.ratification.status = .passed → t.ratification.status = .passed) := by
  constructor
  · intro b action proposal submission t t' hlegacy hcurrent
    have ht : t = _ := ofPools_eq b action hlegacy
    have ht' : t' = _ := ofPools_eq b action hcurrent
    rw [ht, ht']
    exact (SpoFormula.hardens b action).tally _ _
  · intro s thresholds h t t'
    have hratification : t.ratification = _ := ProposalTally.ratification_eq s thresholds c
    have hratification' : t'.ratification = _ := ProposalTally.ratification_eq s thresholds c'
    rw [hratification, hratification']
    constructor
    · refine Ratification.classes_forall₂ _ fun voters p => ⟨rfl, rfl, h.shown_le voters p, ?_, ?_⟩
      · exact fun hp => h.passed fun _ => hp
      · intro hvoters
        unfold checkSupport
        rw [support_of_ne s c c' hvoters]
    · intro hp
      rw [Ratification.status_passed_iff, Ratification.status_passed_iff]
      rintro ⟨hsome, hall⟩
      refine ⟨hsome, fun voters p hget => h.passed ?_ (hall voters p hget)⟩
      rintro rfl
      exact hp p hget

/-- A hard fork that comes under the current formula. Its 400 of 600 become 400 of 950, which just
meets a threshold of 42.10 percent. -/
theorem current_stricter_hard_fork :
    let b : StakeBuckets :=
      { total := 1000, yes := 400, no := 100, abstain := 50, alwaysAbstain := 150
        alwaysNoConfidence := 100 }
    let s : ProposalSnapshot :=
      { proposalId := ⟨"gov_action1", by decide⟩
        actionType := .hardForkInitiation
        submissionEpoch := ⟨533⟩
        spo := some b }
    let c' : FormulaCutover := { transitionEpoch := ⟨533⟩ }
    let thresholds : ThresholdTable :=
      ⟨[(.hardForkInitiation, ⟨none, some (.ofHundredths 4210), none⟩)]⟩
    let t := StakeTally.ofPools b s.actionType s.proposalId s.submissionEpoch {}
    let t' := StakeTally.ofPools b s.actionType s.proposalId s.submissionEpoch c'
    t.1 = .legacy ∧ t'.1 = .current ∧ t.2.yesPct = .ofHundredths 6666 ∧
      t'.2.yesPct = .ofHundredths 4210 ∧ t'.2.meets (.ofHundredths 4210) ∧
      t.2.meets (.ofHundredths 4210) ∧ Forward s.proposalId {} c' ∧
      (ProposalTally.ofSnapshot s thresholds c').ratification.status = .passed ∧
      (ProposalTally.ofSnapshot s thresholds {}).ratification.status = .passed := by
  intro b s c' thresholds t t'
  have hlegacy : t.1 = .legacy := by decide
  have hcurrent : t'.1 = .current := by decide
  have hmeets : t'.2.meets (.ofHundredths 4210) := by decide
  have hforward : Forward s.proposalId {} c' := .lowered (by decide)
  have hpassed : (ProposalTally.ofSnapshot s thresholds c').ratification.status = .passed := by
    decide
  obtain ⟨htally, hverdict⟩ := current_stricter {} c'
  obtain ⟨-, -, -, -, hmet⟩ :=
    htally b s.actionType s.proposalId s.submissionEpoch hlegacy hcurrent
  obtain ⟨-, hstatus⟩ := hverdict s thresholds hforward
  refine ⟨hlegacy, hcurrent, by decide, by decide, hmeets, hmet _ (by decide) hmeets, hforward,
    hpassed, hstatus ?_ hpassed⟩
  intro p hp
  obtain rfl : Percent.ofHundredths 4210 = p := Option.some.inj hp
  decide

end FormulaCutover

end GovernanceIndex
