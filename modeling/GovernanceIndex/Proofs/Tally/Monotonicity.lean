import GovernanceIndex.Proofs.Tally.Ratification
import Mathlib.Data.List.Forall2
import Mathlib.Data.List.Induction
import Mathlib.Tactic.Tauto

/-!
More support never hurts a proposal. Stake that turns to yes, and a yes vote of a committee member
that is the latest of that member, may also raise what a share is taken of: the stake that had not
voted shrinks to nothing, or an abstention is superseded. But the whole never gains more than the
yes side does, and thresholds are at most one hundred percent, so no share falls, no class that
passed fails, and a proposal that passed still does. This is so as well where the buckets exceed the
total or the votes exceed the roster.
-/
namespace GovernanceIndex

/-- The whole of a class did not shrink, and grew by no more than its yes side. -/
structure Support.Gains (x x' : Support) : Prop where
  whole : x.whole ≤ x'.whole
  yes : x'.whole + x.yes ≤ x.whole + x'.yes

namespace Support.Gains

variable {x x' : Support} {p : Percent}

theorem refl (x : Support) : Gains x x := ⟨Nat.le_refl _, Nat.le_refl _⟩

theorem meets (h : Gains x x') (hx : x.Meets p) : x'.Meets p := by
  obtain ⟨hwhole, hmeets⟩ := hx
  obtain ⟨grown, hgrown⟩ := Nat.exists_eq_add_of_le h.whole
  have hyes : x.yes + grown ≤ x'.yes := by
    have hle := h.yes
    omega
  refine ⟨by omega, ?_⟩
  calc p.hundredths * x'.whole
      = p.hundredths * x.whole + p.hundredths * grown := by rw [hgrown, Nat.mul_add]
    _ ≤ x.yes * 10000 + 10000 * grown :=
      Nat.add_le_add hmeets (Nat.mul_le_mul_right grown p.le_hundred)
    _ = (x.yes + grown) * 10000 := by rw [Nat.add_mul, Nat.mul_comm grown]
    _ ≤ x'.yes * 10000 := Nat.mul_le_mul_right 10000 hyes

theorem shown_le (h : Gains x x') : x.shown.hundredths ≤ x'.shown.hundredths := by
  by_cases hwhole : x.whole = 0
  · rw [x.shown_of_nothing hwhole]
    exact Nat.zero_le _
  · -- A class meets the share that is shown of it, so it still does.
    have hmeets : x.Meets x.shown := meets_iff.mpr ⟨hwhole, Nat.le_refl _⟩
    exact (meets_iff.mp (h.meets hmeets)).2

end Support.Gains

/-- More stake of a class is for yes: stake is added to it, or moved to it from no. -/
inductive StakeBuckets.Gains (b : StakeBuckets) : StakeBuckets → Prop
  | added (more : Amount) : Gains b { b with yes := b.yes + more }
  | moved (turned : Amount) (h : turned ≤ b.no) :
    Gains b { b with yes := b.yes + turned, no := b.no - turned }

namespace StakeBuckets.Gains

variable {b b' : StakeBuckets}

theorem drepMapping (h : b.Gains b') (action : ActionType) :
    (b.drepMapping action).1.support.Gains (b'.drepMapping action).1.support := by
  unfold BucketMapping.support BucketMapping.denominator StakeBuckets.drepMapping
    StakeBuckets.notVoted Amount.subClamped StakeBuckets.named
  by_cases haction : action = .noConfidence <;> rcases h with more | ⟨turned, hturned⟩ <;>
    constructor <;> simp only [haction, ↓reduceIte] <;> omega

theorem mapping (h : b.Gains b') (formula : SpoFormula) (action : ActionType) :
    (formula.mapping b action).1.support.Gains (formula.mapping b' action).1.support := by
  cases formula with
  | legacy =>
    unfold SpoFormula.mapping SpoFormula.legacyMapping BucketMapping.support
      BucketMapping.denominator StakeBuckets.drepMapping
    by_cases haction : action = .noConfidence <;> rcases h with more | ⟨turned, hturned⟩ <;>
      constructor <;> simp only [haction, ↓reduceIte, Bool.false_eq_true] <;> omega
  | current =>
    unfold SpoFormula.mapping SpoFormula.currentMapping BucketMapping.support
      BucketMapping.denominator StakeBuckets.notVoted Amount.subClamped StakeBuckets.named
    cases action <;> rcases h with more | ⟨turned, hturned⟩ <;> constructor <;>
      simp only [↓reduceIte] <;> omega

end StakeBuckets.Gains

namespace CommitteeVote

variable {v new : CommitteeVote} {vs votes : List CommitteeVote}

/-- A vote is added to those that count, or takes the place of one of the same member unless that
one is later. -/
theorem count_cases (new : CommitteeVote) (vs : List CommitteeVote) :
    (∃ before after, vs = before ++ after ∧ new.count vs = before ++ new :: after) ∨
      ∃ before old after, vs = before ++ old :: after ∧ old.member = new.member ∧
        new.count vs = before ++ old.later new :: after := by
  induction vs with
  | nil => exact .inl ⟨[], [], rfl, rfl⟩
  | cons v vs ih =>
    unfold count
    split
    · next hmember => exact .inr ⟨[], v, vs, rfl, hmember, rfl⟩
    · split
      · rcases ih with ⟨before, after, rfl, hcount⟩ | ⟨before, old, after, rfl, hmember, hcount⟩
        · exact .inl ⟨v :: before, after, rfl, by rw [hcount, List.cons_append]⟩
        · exact .inr ⟨v :: before, old, after, rfl, hmember, by rw [hcount, List.cons_append]⟩
      · exact .inl ⟨[], v :: vs, rfl, rfl⟩

theorem later_cases (v new : CommitteeVote) :
    v.later new = v ∧ new.effectiveTime.before v.effectiveTime = true ∨
      v.later new = new ∧ new.effectiveTime.before v.effectiveTime = false := by
  unfold later
  split
  · next h => exact .inl ⟨rfl, h⟩
  · next h => exact .inr ⟨rfl, Bool.eq_false_iff.mpr h⟩

theorem mem_count (h : v ∈ new.count vs) : v = new ∨ v ∈ vs := by
  rcases count_cases new vs with ⟨before, after, rfl, hcount⟩ | ⟨before, old, after, rfl, -, hcount⟩
  · rw [hcount] at h
    simp only [List.mem_append, List.mem_cons] at h ⊢
    tauto
  · rw [hcount] at h
    simp only [List.mem_append, List.mem_cons] at h ⊢
    rcases later_cases old new with ⟨heq, -⟩ | ⟨heq, -⟩ <;> rw [heq] at h <;> tauto

theorem latest_append (votes : List CommitteeVote) (v : CommitteeVote) :
    latest (votes ++ [v]) = v.count (latest votes) := by
  unfold latest
  rw [List.foldl_append]
  rfl

theorem mem_of_mem_latest (h : v ∈ latest votes) : v ∈ votes := by
  induction votes using List.reverseRecOn with
  | nil => exact h
  | append_singleton votes new ih =>
    rw [latest_append] at h
    rcases mem_count h with rfl | hmem
    · simp
    · exact List.mem_append_left _ (ih hmem)

end CommitteeVote

/-- A yes vote that no other vote of its member is later than adds to the support by a committee. -/
theorem CommitteeSnapshot.support_gains (k : CommitteeSnapshot) {v : CommitteeVote}
    (hyes : v.vote = .yes)
    (hlatest : ∀ u ∈ k.votes, u.member = v.member →
      v.effectiveTime.before u.effectiveTime = false) :
    k.support.Gains ({ k with votes := k.votes ++ [v] } : CommitteeSnapshot).support := by
  have hsupport (counted : List CommitteeVote) (hcounted : v.count (CommitteeVote.latest k.votes) =
      counted) : ({ k with votes := k.votes ++ [v] } : CommitteeSnapshot).support =
      ⟨counted.countP fun u => u.vote = .yes,
        k.rosterSize.toNat - counted.countP fun u => u.vote = .abstain⟩ := by
    unfold CommitteeSnapshot.support
    rw [CommitteeVote.latest_append, hcounted]
  rcases CommitteeVote.count_cases v (CommitteeVote.latest k.votes) with
    ⟨before, after, hbefore, hcount⟩ | ⟨before, old, after, hbefore, hmember, hcount⟩
  · rw [hsupport _ hcount]
    unfold CommitteeSnapshot.support
    rw [hbefore]
    constructor <;> simp [hyes]
  · have hrecorded : old ∈ k.votes :=
      CommitteeVote.mem_of_mem_latest (by rw [hbefore]; simp)
    have hlater : old.later v = v := by
      unfold CommitteeVote.later
      rw [hlatest old hrecorded hmember]
      rfl
    rw [hlater] at hcount
    rw [hsupport _ hcount]
    unfold CommitteeSnapshot.support
    rw [hbefore]
    -- A superseded abstention adds one to the whole, and one to the yes side.
    rcases hvote : old.vote <;> constructor <;> simp [hyes, hvote] <;> omega

/-- A proposal has more support: more stake of a class is for yes, or a committee member votes yes,
no earlier than the other votes of that member. -/
inductive ProposalSnapshot.Gains (s : ProposalSnapshot) : ProposalSnapshot → Prop
  | drep {b b' : StakeBuckets} (h : s.drep = some b) (hb : b.Gains b') :
    Gains s { s with drep := some b' }
  | spo {b b' : StakeBuckets} (h : s.spo = some b) (hb : b.Gains b') :
    Gains s { s with spo := some b' }
  | committee {k : CommitteeSnapshot} {v : CommitteeVote} (h : s.committee = some k)
    (hyes : v.vote = .yes)
    (hlatest : ∀ u ∈ k.votes, u.member = v.member →
      v.effectiveTime.before u.effectiveTime = false) :
    Gains s { s with committee := some { k with votes := k.votes ++ [v] } }

namespace ProposalSnapshot.Gains

variable {s s' : ProposalSnapshot}

theorem actionType (h : s.Gains s') : s'.actionType = s.actionType := by
  cases h <;> rfl

/-- No class loses support when a proposal gains some. -/
theorem support (h : s.Gains s') (cutover : FormulaCutover) {c : VoterClass} {x : Support}
    (hx : s.support cutover c = some x) : ∃ x', s'.support cutover c = some x' ∧ x.Gains x' := by
  have hsame (hsame : s'.support cutover c = s.support cutover c) :
      ∃ x', s'.support cutover c = some x' ∧ x.Gains x' := ⟨x, hsame.trans hx, .refl x⟩
  cases h with
  | drep hdrep hb =>
    cases c with
    | drep =>
      unfold ProposalSnapshot.support at hx
      rw [hdrep] at hx
      cases hx
      exact ⟨_, rfl, hb.drepMapping _⟩
    | spo => exact hsame rfl
    | committee => exact hsame rfl
  | spo hspo hb =>
    cases c with
    | drep => exact hsame rfl
    | spo =>
      unfold ProposalSnapshot.support at hx
      rw [hspo] at hx
      cases hx
      exact ⟨_, rfl, hb.mapping _ _⟩
    | committee => exact hsame rfl
  | @committee k v hcommittee hyes hlatest =>
    cases c with
    | drep => exact hsame rfl
    | spo => exact hsame rfl
    | committee =>
      unfold ProposalSnapshot.support at hx
      rw [hcommittee] at hx
      cases hx
      exact ⟨_, rfl, k.support_gains hyes hlatest⟩

end ProposalSnapshot.Gains

/-- The second verdict is about the same threshold of the same class, and no worse. -/
structure ClassVerdict.NoWorse (v v' : ClassVerdict) : Prop where
  voterClass : v'.voterClass = v.voterClass
  threshold : v'.threshold = v.threshold
  yesPct : v.yesPct.hundredths ≤ v'.yesPct.hundredths
  passed : v.passed → v'.passed

theorem Ratification.classes_forall₂ (t : ClassThresholds)
    {check check' : VoterClass → Percent → Option (Percent × Bool)}
    {R : ClassVerdict → ClassVerdict → Prop}
    (h : ∀ c p, R ⟨c, p, ((check c p).getD (.zero, false)).1, ((check c p).getD (.zero, false)).2⟩
      ⟨c, p, ((check' c p).getD (.zero, false)).1, ((check' c p).getD (.zero, false)).2⟩) :
    List.Forall₂ R (evaluate t check).classes (evaluate t check').classes := by
  unfold evaluate
  rw [List.forall₂_map_left_iff, List.forall₂_map_right_iff, List.forall₂_same]
  rintro ⟨c, p⟩ -
  exact h c p

theorem Ratification.evaluate_noWorse (t : ClassThresholds)
    {check check' : VoterClass → Percent → Option (Percent × Bool)}
    (hshown : ∀ c p, ((check c p).getD (.zero, false)).1.hundredths ≤
      ((check' c p).getD (.zero, false)).1.hundredths)
    (hpassed : ∀ c p, ((check c p).getD (.zero, false)).2 → ((check' c p).getD (.zero, false)).2) :
    List.Forall₂ ClassVerdict.NoWorse (evaluate t check).classes (evaluate t check').classes ∧
      ((evaluate t check).status = .passed → (evaluate t check').status = .passed) := by
  constructor
  · exact classes_forall₂ t fun c p => ⟨rfl, rfl, hshown c p, hpassed c p⟩
  · rw [status_passed_iff, status_passed_iff]
    rintro ⟨hsome, hall⟩
    exact ⟨hsome, fun c p hp => hpassed c p (hall c p hp)⟩

namespace ProposalTally

/-- Of a proposal that gains support no share falls, no class that passed fails, and it still passes
if it passed. -/
theorem ratification_monotone {s s' : ProposalSnapshot} (h : s.Gains s')
    (thresholds : ThresholdTable) (cutover : FormulaCutover) :
    let t := ofSnapshot s thresholds cutover
    let t' := ofSnapshot s' thresholds cutover
    (∀ c p, t.shown c = some p →
      ∃ p', t'.shown c = some p' ∧ p.hundredths ≤ p'.hundredths) ∧
    List.Forall₂ ClassVerdict.NoWorse t.ratification.classes t'.ratification.classes ∧
    (t.ratification.status = .passed → t'.ratification.status = .passed) := by
  intro t t'
  constructor
  · intro c p hp
    rw [shown_eq] at hp ⊢
    obtain ⟨x, hx, rfl⟩ := Option.map_eq_some_iff.mp hp
    obtain ⟨x', hx', hgains⟩ := h.support cutover hx
    exact ⟨x'.shown, by rw [hx']; rfl, hgains.shown_le⟩
  · have hratification : t.ratification =
        .evaluate (thresholds.get s.actionType) (checkSupport s cutover) := ratification_eq ..
    have hratification' : t'.ratification =
        .evaluate (thresholds.get s.actionType) (checkSupport s' cutover) := by
      rw [← h.actionType]
      exact ratification_eq ..
    rw [hratification, hratification']
    apply Ratification.evaluate_noWorse
    · intro c p
      unfold checkSupport
      rcases hx : s.support cutover c with _ | x
      · simp [Percent.zero, Percent.ofHundredths]
      · obtain ⟨x', hx', hgains⟩ := h.support cutover hx
        rw [hx']
        exact hgains.shown_le
    · intro c p
      simp only [checkSupport_passed]
      rintro ⟨x, hx, hmeets⟩
      obtain ⟨x', hx', hgains⟩ := h.support cutover hx
      exact ⟨x', hx', hgains.meets hmeets⟩

/-- The abstention of one of three committee members gives way to a yes, which makes two of three of
one of two. -/
theorem ratification_monotone_superseded :
    let vote (member : CommitteeMemberId) (vote : Vote) (time : Nat) : CommitteeVote :=
      { member, vote, recordedAt := ⟨time, 0⟩ }
    let first : CommitteeMemberId := ⟨"cc_cold1a", by decide⟩
    let second : CommitteeMemberId := ⟨"cc_cold1b", by decide⟩
    let k : CommitteeSnapshot := ⟨3, [vote first .yes 1, vote second .abstain 2]⟩
    let s : ProposalSnapshot :=
      { proposalId := ⟨"gov_action1", by decide⟩
        actionType := .parameterChange
        submissionEpoch := ⟨540⟩
        committee := some k }
    let s' := { s with committee := some { k with votes := k.votes ++ [vote second .yes 2] } }
    let thresholds : ThresholdTable := ⟨[(.parameterChange, ⟨none, none, some (.ofWhole 50)⟩)]⟩
    let t := ofSnapshot s thresholds {}
    let t' := ofSnapshot s' thresholds {}
    s.Gains s' ∧ t.ratification.classes = [⟨.committee, .ofWhole 50, .ofHundredths 5000, true⟩] ∧
      t'.ratification.classes = [⟨.committee, .ofWhole 50, .ofHundredths 6666, true⟩] ∧
      t.ratification.status = .passed ∧ t'.ratification.status = .passed := by
  intro vote first second k s s' thresholds t t'
  have hgains : s.Gains s' := .committee rfl rfl (by decide)
  have hpassed : t.ratification.status = .passed := by decide
  obtain ⟨-, -, hstatus⟩ := ratification_monotone hgains thresholds {}
  exact ⟨hgains, by decide, by decide, hpassed, hstatus hpassed⟩

end ProposalTally

end GovernanceIndex
