import GovernanceIndex.Proofs.Identifier
import GovernanceIndex.Proofs.Tally.Monotonicity
import GovernanceIndex.Proofs.Tally.VoteCounters
import Mathlib.Data.List.Dedup

/-!
The committee votes that count. Of each member one vote stands: no vote of the member is later, and
those further down the list are earlier. The votes that count are those that stand, sorted by
member, so they do not depend on how votes of different members lie in the list, nor on the order of
votes with times of their own. The tally counts every member who voted once, and the roster is made
up by those who did not unless there are more votes than members in it.
-/
namespace GovernanceIndex

namespace Timestamp

variable {a b c : Timestamp}

theorem before_eq_false_iff : a.before b = false ↔ b.before a = true ∨ a = b := by
  obtain ⟨seconds, nanos⟩ := a
  obtain ⟨seconds', nanos'⟩ := b
  simp only [before, decide_eq_false_iff_not, decide_eq_true_eq, mk.injEq]
  omega

theorem before_trans (hab : a.before b = true) (hbc : b.before c = true) : a.before c = true := by
  simp only [before, decide_eq_true_eq] at *
  omega

theorem not_before_trans (hab : a.before b = false) (hbc : b.before c = false) :
    a.before c = false := by
  rw [before_eq_false_iff] at *
  rcases hab with hab | rfl
  · rcases hbc with hbc | rfl
    · exact .inl (before_trans hbc hab)
    · exact .inl hab
  · exact hbc

end Timestamp

namespace CommitteeVote

variable {v new : CommitteeVote} {vs votes votes' : List CommitteeVote}

/-- A vote stands: the votes of its member in front of it are no later, and those behind it are
earlier. -/
def Stands (v : CommitteeVote) (votes : List CommitteeVote) : Prop :=
  ∃ before after, votes = before ++ v :: after ∧
    (∀ u ∈ before, u.member = v.member → v.effectiveTime.before u.effectiveTime = false) ∧
    ∀ u ∈ after, u.member = v.member → u.effectiveTime.before v.effectiveTime = true

/-- A vote is no earlier than any vote of its member. -/
def Supersedes (new : CommitteeVote) (votes : List CommitteeVote) : Prop :=
  ∀ u ∈ votes, u.member = new.member → new.effectiveTime.before u.effectiveTime = false

theorem Stands.mem (h : v.Stands votes) : v ∈ votes := by
  obtain ⟨before, after, rfl, -, -⟩ := h
  simp

theorem Stands.supersedes (h : v.Stands votes) : v.Supersedes votes := by
  obtain ⟨before, after, rfl, hbefore, hafter⟩ := h
  intro u hu hmember
  rcases List.mem_append.mp hu with hu | hu
  · exact hbefore u hu hmember
  · rcases List.mem_cons.mp hu with rfl | hu
    · exact Timestamp.before_eq_false_iff.mpr (.inr rfl)
    · exact Timestamp.before_eq_false_iff.mpr (.inl (hafter u hu hmember))

/-- Behind a further vote the votes stand that it does not supersede, and itself unless it is
earlier than another one of its member. -/
theorem stands_append :
    v.Stands (votes ++ [new]) ↔
      v.Stands votes ∧
          (v.member = new.member → new.effectiveTime.before v.effectiveTime = true) ∨
        v = new ∧ new.Supersedes votes := by
  constructor
  · rintro ⟨before, after, hsplit, hbefore, hafter⟩
    rcases List.eq_nil_or_concat after with rfl | ⟨after, last, rfl⟩
    · obtain ⟨rfl, hlast⟩ := List.append_inj' hsplit rfl
      obtain rfl : new = v := List.singleton_inj.mp hlast
      exact .inr ⟨rfl, hbefore⟩
    · rw [List.concat_eq_append, ← List.cons_append, ← List.append_assoc] at hsplit
      obtain ⟨rfl, hlast⟩ := List.append_inj' hsplit rfl
      obtain rfl : new = last := List.singleton_inj.mp hlast
      rw [List.concat_eq_append] at hafter
      refine .inl ⟨⟨before, after, rfl, hbefore, fun u hu => ?_⟩, fun hmember => ?_⟩
      · exact hafter u (List.mem_append_left _ hu)
      · exact hafter new (by simp) hmember.symm
  · rintro (⟨⟨before, after, rfl, hbefore, hafter⟩, hnew⟩ | ⟨rfl, hbefore⟩)
    · refine ⟨before, after ++ [new], by simp, hbefore, fun u hu hmember => ?_⟩
      rcases List.mem_append.mp hu with hu | hu
      · exact hafter u hu hmember
      · obtain rfl : u = new := List.mem_singleton.mp hu
        exact hnew hmember.symm
    · exact ⟨votes, [], rfl, hbefore, nofun⟩

theorem Stands.supersedes_of (h : v.Stands votes) (hmember : v.member = new.member)
    (hnew : new.effectiveTime.before v.effectiveTime = false) : new.Supersedes votes := by
  intro u hu hsame
  exact Timestamp.not_before_trans hnew (h.supersedes u hu (hsame.trans hmember.symm))

theorem exists_stands (h : v ∈ votes) :
    ∃ u : CommitteeVote, u.Stands votes ∧ u.member = v.member := by
  induction votes using List.reverseRecOn generalizing v with
  | nil => cases h
  | append_singleton votes new ih =>
    have hearlier : ∀ w ∈ votes,
        ∃ u : CommitteeVote, u.Stands (votes ++ [new]) ∧ u.member = w.member := by
      intro w hw
      obtain ⟨u, hu, hmember⟩ := ih hw
      by_cases hsame : u.member = new.member
      · cases hnew : new.effectiveTime.before u.effectiveTime with
        | true => exact ⟨u, stands_append.mpr (.inl ⟨hu, fun _ => hnew⟩), hmember⟩
        | false =>
          have hstands := stands_append.mpr (.inr ⟨rfl, hu.supersedes_of hsame hnew⟩)
          exact ⟨new, hstands, hsame.symm.trans hmember⟩
      · exact ⟨u, stands_append.mpr (.inl ⟨hu, fun hsame' => absurd hsame' hsame⟩), hmember⟩
    rcases List.mem_append.mp h with hv | hv
    · exact hearlier v hv
    · obtain rfl : v = new := List.mem_singleton.mp hv
      by_cases hfirst : ∃ w ∈ votes, w.member = v.member
      · obtain ⟨w, hw, hmember⟩ := hfirst
        obtain ⟨u, hu, hu'⟩ := hearlier w hw
        exact ⟨u, hu, hu'.trans hmember⟩
      · exact ⟨v, stands_append.mpr (.inr ⟨rfl, fun u hu hmember =>
          absurd ⟨u, hu, hmember⟩ hfirst⟩), rfl⟩

theorem supersedes_iff :
    new.Supersedes votes ↔ ∀ u : CommitteeVote, u.Stands votes → u.member = new.member →
      new.effectiveTime.before u.effectiveTime = false := by
  constructor
  · exact fun h u hu => h u hu.mem
  · intro h w hw hmember
    obtain ⟨u, hu, hsame⟩ := exists_stands hw
    exact hu.supersedes_of (hsame.trans hmember) (h u hu (hsame.trans hmember)) w hw hmember

/-- Votes are sorted by member, each with one vote. -/
def Sorted (vs : List CommitteeVote) : Prop := vs.Pairwise fun u v => u.member.text < v.member.text

theorem sorted_cons {u : CommitteeVote} (hlt : u.member.text < v.member.text)
    (h : Sorted (v :: vs)) : Sorted (u :: v :: vs) := by
  refine List.pairwise_cons.mpr ⟨List.forall_mem_cons.mpr ⟨hlt, fun w hw => ?_⟩, h⟩
  exact String.lt_trans hlt ((List.pairwise_cons.mp h).1 w hw)

theorem sorted_count (h : Sorted vs) : Sorted (new.count vs) := by
  induction vs with
  | nil => exact List.pairwise_singleton _ _
  | cons v vs ih =>
    obtain ⟨hfirst, hrest⟩ := List.pairwise_cons.mp h
    unfold count
    split
    · next hmember =>
      have hlater : (v.later new).member = v.member := by
        rcases later_cases v new with ⟨heq, -⟩ | ⟨heq, -⟩ <;> rw [heq]
        exact hmember.symm
      exact List.pairwise_cons.mpr ⟨fun u hu => hlater ▸ hfirst u hu, hrest⟩
    · next hmember =>
      split
      · next hlt =>
        refine List.pairwise_cons.mpr ⟨fun u hu => ?_, ih hrest⟩
        rcases mem_count hu with rfl | hu
        · exact hlt
        · exact hfirst u hu
      · next hge =>
        have hlt := Identifier.lt_of_not_lt hmember hge
        exact sorted_cons hlt h

theorem Sorted.member_ne (h : Sorted (v :: vs)) : ∀ u ∈ vs, u.member ≠ v.member := by
  intro u hu hmember
  have hlt := (List.pairwise_cons.mp h).1 u hu
  rw [hmember] at hlt
  exact String.lt_irrefl _ hlt

/-- A further vote is treated alike by the votes that count and by the votes that stand. -/
theorem mem_count_iff (h : Sorted vs) :
    v ∈ new.count vs ↔
      v ∈ vs ∧ (v.member = new.member → new.effectiveTime.before v.effectiveTime = true) ∨
        v = new ∧ new.Supersedes vs := by
  induction vs with
  | nil => simp [count, Supersedes]
  | cons w vs ih =>
    have hrest : Sorted vs := (List.pairwise_cons.mp h).2
    unfold count
    split
    · next hmember =>
      have hother : ∀ u ∈ vs, u.member ≠ new.member := hmember ▸ h.member_ne
      rcases later_cases w new with ⟨heq, hnew⟩ | ⟨heq, hnew⟩ <;> rw [heq] <;>
        simp only [Supersedes, List.mem_cons] <;> grind
    · next hmember =>
      split
      · next hlt =>
        have hrec := ih hrest
        simp only [Supersedes, List.mem_cons] at hrec ⊢
        grind
      · next hge =>
        have hlt := Identifier.lt_of_not_lt hmember hge
        have hcons : Sorted (new :: w :: vs) := sorted_cons hlt h
        have hother : ∀ u ∈ w :: vs, u.member ≠ new.member := hcons.member_ne
        simp only [Supersedes, List.mem_cons] at hother ⊢
        grind

theorem sorted_latest (votes : List CommitteeVote) : Sorted (latest votes) := by
  induction votes using List.reverseRecOn with
  | nil => exact List.Pairwise.nil
  | append_singleton votes new ih =>
    rw [latest_append]
    exact sorted_count ih

theorem mem_latest_iff : v ∈ latest votes ↔ v.Stands votes := by
  induction votes using List.reverseRecOn generalizing v with
  | nil =>
    constructor
    · exact nofun
    · exact fun h => absurd h.mem List.not_mem_nil
  | append_singleton votes new ih =>
    have hsupersedes : new.Supersedes (latest votes) ↔ new.Supersedes votes := by
      refine Iff.trans ?_ supersedes_iff.symm
      unfold Supersedes
      simp only [ih]
    rw [latest_append, mem_count_iff (sorted_latest votes), stands_append, ih, hsupersedes]

theorem Sorted.members_nodup (h : Sorted vs) : (vs.map fun v => v.member).Nodup := by
  refine List.pairwise_map.mpr (h.imp fun {u v} hlt hmember => ?_)
  rw [hmember] at hlt
  exact String.lt_irrefl _ hlt

theorem members_latest (votes : List CommitteeVote) :
    ((latest votes).map fun v => v.member).Perm (votes.map fun v => v.member).dedup := by
  refine (List.perm_ext_iff_of_nodup (sorted_latest votes).members_nodup
    (List.nodup_dedup _)).mpr fun m => ?_
  rw [List.mem_dedup, List.mem_map, List.mem_map]
  constructor
  · rintro ⟨v, hv, rfl⟩
    exact ⟨v, mem_of_mem_latest hv, rfl⟩
  · rintro ⟨v, hv, rfl⟩
    obtain ⟨u, hu, hmember⟩ := exists_stands hv
    exact ⟨u, mem_latest_iff.mpr hu, hmember⟩

/-- In whatever order the votes that stand come, sorted by member they are those that count. -/
theorem sort_eq_latest (hnodup : vs.Nodup)
    (hstands : ∀ v : CommitteeVote, v ∈ vs ↔ v.Stands votes) :
    (vs.mergeSort fun u v => u.member.le v.member) = latest votes := by
  have hsorted := sorted_latest votes
  have hmembers := hsorted.members_nodup
  have hmem (v : CommitteeVote) : v ∈ vs ↔ v ∈ latest votes := (hstands v).trans mem_latest_iff.symm
  have hperm : vs.Perm (latest votes) :=
    (List.perm_ext_iff_of_nodup hnodup hmembers.of_map).mpr hmem
  have hsort := Identifier.mergeSort_eq_of_perm (f := fun v : CommitteeVote => v.member) hperm
    fun u hu v hv => List.inj_on_of_nodup_map hmembers ((hmem u).mp hu) hv
  rw [hsort]
  apply List.mergeSort_of_pairwise
  exact hsorted.imp fun hlt => decide_eq_true (Std.le_of_lt hlt)

/-- No member voted twice at one time. -/
def Timed (votes : List CommitteeVote) : Prop :=
  votes.Pairwise fun u v => u.member = v.member → u.effectiveTime ≠ v.effectiveTime

instance (votes : List CommitteeVote) : Decidable (Timed votes) :=
  inferInstanceAs (Decidable (votes.Pairwise _))

theorem Timed.stands_iff (h : Timed votes) :
    v.Stands votes ↔ v ∈ votes ∧ v.Supersedes votes := by
  constructor
  · exact fun hstands => ⟨hstands.mem, hstands.supersedes⟩
  · rintro ⟨hv, hsupersedes⟩
    obtain ⟨before, after, rfl⟩ := List.append_of_mem hv
    have hafter := (List.pairwise_cons.mp (List.pairwise_append.mp h).2.1).1
    refine ⟨before, after, rfl, fun u hu => hsupersedes u (List.mem_append_left _ hu), ?_⟩
    intro u hu hmember
    have hnot := hsupersedes u (by simp [hu]) hmember
    rcases Timestamp.before_eq_false_iff.mp hnot with hearlier | hsame
    · exact hearlier
    · exact absurd hsame (hafter u hu hmember.symm)

theorem Timed.perm (h : Timed votes) (hperm : votes'.Perm votes) : Timed votes' := by
  refine (hperm.pairwise_iff fun {u v} huv hmember => ?_).mpr h
  exact (huv hmember.symm).symm

theorem Timed.latest_perm (h : Timed votes) (hperm : votes'.Perm votes) :
    latest votes' = latest votes := by
  have hstands (v : CommitteeVote) : v.Stands votes' ↔ v.Stands votes := by
    rw [(h.perm hperm).stands_iff, h.stands_iff, hperm.mem_iff]
    unfold Supersedes
    simp only [hperm.mem_iff]
  have hnodup : (latest votes').Nodup := (sorted_latest votes').members_nodup.of_map
  calc latest votes'
      = (latest votes').mergeSort fun u v => u.member.le v.member :=
        (sort_eq_latest hnodup fun _ => mem_latest_iff).symm
    _ = latest votes := sort_eq_latest hnodup fun v => mem_latest_iff.trans (hstands v)

end CommitteeVote

namespace CommitteeTally

theorem cast_eq (counted : List CommitteeVote) :
    counted.countP (fun v => v.vote = .yes) + counted.countP (fun v => v.vote = .no) +
      counted.countP (fun v => v.vote = .abstain) = counted.length := by
  induction counted with
  | nil => rfl
  | cons v counted ih =>
    simp only [List.countP_cons, List.length_cons]
    cases v.vote <;> simp <;> omega

/-- The committee is counted by the votes that stand, one of each member who voted. Those who did
not vote make up the roster unless more members voted than it has, and the order of votes with times
of their own does not matter. Fewer members than there are words of 32 bits are counted in such
words. -/
theorem counts_latest (s : CommitteeSnapshot) :
    let counted := CommitteeVote.latest s.votes
    let members := (s.votes.map fun v => v.member).dedup
    let t := ofSnapshot s
    let cast := t.yes + t.no + t.abstain
    counted.Pairwise (fun u v => u.member.text < v.member.text) ∧
      (counted.map fun v => v.member).Perm members ∧
      (∀ v, v ∈ counted ↔ v.Stands s.votes) ∧
      (∀ vs : List CommitteeVote, vs.Nodup → (∀ v, v ∈ vs ↔ v.Stands s.votes) →
        (vs.mergeSort fun u v => u.member.le v.member) = counted) ∧
      cast = members.length ∧ t.supersededVotes + members.length = s.votes.length ∧
      (t.notVotedClamped ↔ s.rosterSize.toNat < members.length) ∧
      (¬ t.notVotedClamped → cast + t.notVoted = s.rosterSize.toNat ∧
        t.yes + t.no + t.notVoted = t.denominator) ∧
      (∀ votes', votes'.Perm s.votes → CommitteeVote.Timed s.votes →
        ofSnapshot { s with votes := votes' } = t) ∧
      (members.length < 2 ^ 32 → ∃ c word, VoteCounters.count? counted = some c ∧
        c.cast? = some word ∧ (c .yes).toNat = t.yes ∧ (c .no).toNat = t.no ∧
        (c .abstain).toNat = t.abstain ∧ word.toNat = cast) := by
  intro counted members t cast
  have hmembers : (counted.map fun v => v.member).Perm members :=
    CommitteeVote.members_latest s.votes
  have hlength : counted.length = members.length := by
    rw [← hmembers.length_eq, List.length_map]
  have hcast : cast = members.length := (cast_eq counted).trans hlength
  have hvotes : members.length ≤ s.votes.length := by
    have hsub := (List.dedup_sublist (s.votes.map fun v => v.member)).length_le
    rwa [List.length_map] at hsub
  have hsuperseded : t.supersededVotes = s.votes.length - counted.length := rfl
  have hclamped : t.notVotedClamped ↔ s.rosterSize.toNat < cast := decide_eq_true_iff
  have hnotVoted : t.notVoted = s.rosterSize.toNat - cast := rfl
  have hdenominator : t.denominator = s.rosterSize.toNat - t.abstain := rfl
  refine ⟨CommitteeVote.sorted_latest s.votes, hmembers, fun v => CommitteeVote.mem_latest_iff,
    fun vs => CommitteeVote.sort_eq_latest, hcast, by omega, hcast ▸ hclamped, ?_, ?_, ?_⟩
  · intro hroom
    rw [hclamped] at hroom
    constructor <;> omega
  · intro votes' hperm htimed
    unfold t ofSnapshot
    rw [htimed.latest_perm hperm, hperm.length_eq]
  · intro hfits
    obtain ⟨c, hcount, hholds⟩ := VoteCounters.exists_count? (hlength ▸ hfits)
    have hsum : (c .yes).toNat + (c .no).toNat + (c .abstain).toNat = cast := by
      rw [hholds, hholds, hholds]
      rfl
    obtain ⟨word, hword, hvalue⟩ := VoteCounters.exists_cast? hsum (hcast ▸ hfits)
    exact ⟨c, word, hcount, hword, hholds .yes, hholds .no, hholds .abstain, hvalue⟩

/-- Two of three members voted, each twice. The second member abstained without a time of the vote,
and was recorded after the time of the other vote, though that lies further down the list. -/
theorem counts_latest_reversed :
    let vote (member : CommitteeMemberId) (vote : Vote) (votedAt : Option Timestamp) (time : Nat) :
        CommitteeVote := { member, vote, votedAt, recordedAt := ⟨time, 0⟩ }
    let first : CommitteeMemberId := ⟨"cc_cold1a", by decide⟩
    let second : CommitteeMemberId := ⟨"cc_cold1b", by decide⟩
    let s : CommitteeSnapshot :=
      ⟨3, [vote second .abstain none 5, vote first .no (some ⟨10, 0⟩) 11,
        vote second .yes (some ⟨4, 0⟩) 30, vote first .yes (some ⟨20, 0⟩) 21]⟩
    let counted := CommitteeVote.latest s.votes
    let t := ofSnapshot s
    CommitteeVote.Timed s.votes ∧ ¬ t.notVotedClamped ∧
      counted = [vote first .yes (some ⟨20, 0⟩) 21, vote second .abstain none 5] ∧
      (counted.reverse.mergeSort fun u v => u.member.le v.member) = counted ∧
      t.yes + t.no + t.abstain + t.notVoted = 3 ∧ t.yes + t.no + t.notVoted = t.denominator ∧
      t.denominator = 2 ∧ ofSnapshot { s with votes := s.votes.reverse } = t ∧
      ∃ c, VoteCounters.count? counted = some c ∧ c.cast? = some 2 ∧ (c .abstain).toNat = 1 := by
  intro vote first second s counted t
  have htimed : CommitteeVote.Timed s.votes := by decide
  have hroom : ¬ t.notVotedClamped := by decide
  obtain ⟨-, -, hstands, hsort, -, -, -, hroster, hperm, hwords⟩ := counts_latest s
  obtain ⟨hcast, hdenominator⟩ := hroster hroom
  obtain ⟨c, word, hcount, hword, -, -, habstain, hvalue⟩ := hwords (by decide)
  obtain rfl : word = 2 := UInt32.toNat_inj.mp (hvalue.trans (by decide))
  have hnodup : counted.reverse.Nodup :=
    List.nodup_reverse.mpr (CommitteeVote.sorted_latest s.votes).members_nodup.of_map
  refine ⟨htimed, hroom, by decide, ?_, hcast, hdenominator, by decide,
    hperm _ (List.reverse_perm s.votes) htimed, c, hcount, hword, habstain.trans (by decide)⟩
  exact hsort _ hnodup fun v => List.mem_reverse.trans (hstands v)

end CommitteeTally

end GovernanceIndex
