import GovernanceIndex.Proofs.Number.CheckedWord
import GovernanceIndex.Tally.Committee
import Mathlib.Data.List.Induction
import Mathlib.Logic.Function.Basic

/-!
Committee votes counted in words of 32 bits. Each vote adds one to its counter, and the sum of the
counters is taken in two steps. None of these steps overflows as long as the votes are fewer than
there are words.
-/
namespace GovernanceIndex

/-- A counter for each of the votes. -/
abbrev VoteCounters := Vote → UInt32

namespace VoteCounters

/-- Counters with one more vote, if its counter does not overflow. -/
def add? (c : VoteCounters) (vote : Vote) : Option VoteCounters := do
  let n ← Word.add32? (c vote) 1
  return Function.update c vote n

def count? (votes : List CommitteeVote) : Option VoteCounters :=
  votes.foldlM (fun c v => c.add? v.vote) fun _ => 0

/-- The sum of the counters, if it does not overflow. -/
def cast? (c : VoteCounters) : Option UInt32 := do
  Word.add32? (← Word.add32? (c .yes) (c .no)) (c .abstain)

/-- Counters hold the counts of votes. -/
def Holds (c : VoteCounters) (votes : List CommitteeVote) : Prop :=
  ∀ vote, (c vote).toNat = votes.countP fun v => v.vote = vote

variable {c : VoteCounters} {votes : List CommitteeVote}

theorem Holds.add? (h : c.Holds votes) (v : CommitteeVote) (hfits : votes.length + 1 < 2 ^ 32) :
    ∃ c', c.add? v.vote = some c' ∧ Holds c' (votes ++ [v]) := by
  have hcount : (c v.vote).toNat + 1 ≤ 4294967295 := by
    have hle : votes.countP (fun u => u.vote = v.vote) ≤ votes.length := List.countP_le_length
    rw [h v.vote]
    omega
  obtain ⟨n, hadd, hn⟩ := (Word.add32?_computes (c v.vote) 1).exists_eq_some hcount
  refine ⟨Function.update c v.vote n, ?_, fun vote => ?_⟩
  · unfold VoteCounters.add?
    rw [hadd]
    rfl
  · rw [List.countP_append, ← h vote, List.countP_singleton]
    by_cases hvote : vote = v.vote
    · subst hvote
      rw [Function.update_self, hn]
      simp
    · rw [Function.update_of_ne hvote, if_neg (by simpa using Ne.symm hvote)]
      rfl

theorem exists_count? (hfits : votes.length < 2 ^ 32) :
    ∃ c, count? votes = some c ∧ Holds c votes := by
  induction votes using List.reverseRecOn with
  | nil => exact ⟨fun _ => 0, rfl, fun _ => rfl⟩
  | append_singleton votes v ih =>
    rw [List.length_append, List.length_singleton] at hfits
    obtain ⟨c, hc, hholds⟩ := ih (Nat.lt_of_succ_lt hfits)
    obtain ⟨c', hadd, hholds'⟩ := hholds.add? v hfits
    refine ⟨c', ?_, hholds'⟩
    unfold count? at hc ⊢
    rw [List.foldlM_append, hc]
    simpa using hadd

theorem exists_cast? {n : Nat} (hsum : (c .yes).toNat + (c .no).toNat + (c .abstain).toNat = n)
    (hfits : n < 2 ^ 32) : ∃ word, c.cast? = some word ∧ word.toNat = n := by
  have hcast : Computes UInt32.toNat 4294967295 n c.cast? := by
    apply (Word.add32?_computes (c .yes) (c .no)).bind
    · intro hover
      omega
    · intro both hboth
      rw [← hsum, ← hboth]
      exact Word.add32?_computes both (c .abstain)
  exact hcast.exists_eq_some (Nat.le_of_lt_succ hfits)

end VoteCounters

end GovernanceIndex
