import GovernanceIndex.Codec
import GovernanceIndex.Tally.Percent
import GovernanceIndex.Time.Timestamp

/-!
Committee votes and their tally. Each member counts with the latest of its votes, by the time of
the vote or, if that is unknown, of its record; of two equally late votes the one further down the
list counts.
-/
namespace GovernanceIndex

structure CommitteeVote where
  member : CommitteeMemberId
  vote : Vote
  votedAt : Option Timestamp := none
  recordedAt : Timestamp
  deriving DecidableEq, Repr

/-- The committee's size and all recorded votes, superseded ones included. -/
structure CommitteeSnapshot where
  rosterSize : UInt32
  votes : List CommitteeVote := []
  deriving DecidableEq, Repr

structure CommitteeTally where
  rosterSize : Nat
  yes : Nat
  no : Nat
  abstain : Nat
  notVoted : Nat
  denominator : Nat
  yesPct : Percent
  noPct : Percent
  notVotedPct : Percent
  notVotedClamped : Bool
  supersededVotes : Nat
  deriving DecidableEq, Repr

namespace CommitteeVote

/-- The time by which votes of a member are ordered. -/
def effectiveTime (v : CommitteeVote) : Timestamp := v.votedAt.getD v.recordedAt

/-- The later of two votes of a member, the second one if they are equally late. -/
def later (old new : CommitteeVote) : CommitteeVote :=
  if new.effectiveTime.before old.effectiveTime then old else new

/-- Adds a vote to the votes that count so far, which are sorted by member. -/
def count (new : CommitteeVote) : List CommitteeVote → List CommitteeVote
  | [] => [new]
  | v :: vs =>
    if v.member = new.member then v.later new :: vs
    else if v.member.text < new.member.text then v :: count new vs
    else new :: v :: vs

def latest (votes : List CommitteeVote) : List CommitteeVote :=
  votes.foldl (fun counted v => v.count counted) []

end CommitteeVote

namespace CommitteeTally

/-- The tally of a committee: members who abstain leave the denominator. -/
def ofSnapshot (s : CommitteeSnapshot) : CommitteeTally :=
  let counted := CommitteeVote.latest s.votes
  let cast (vote : Vote) := counted.countP fun v => v.vote = vote
  let roster := s.rosterSize.toNat
  let denominator := roster - cast .abstain
  let notVoted := roster - (cast .yes + cast .no + cast .abstain)
  { rosterSize := roster
    yes := cast .yes
    no := cast .no
    abstain := cast .abstain
    notVoted
    denominator
    yesPct := .share (cast .yes) denominator
    noPct := .share (cast .no) denominator
    notVotedPct := .share notVoted denominator
    notVotedClamped := decide (roster < cast .yes + cast .no + cast .abstain)
    supersededVotes := s.votes.length - counted.length }

def hasVotes (t : CommitteeTally) : Bool := decide (t.denominator ≠ 0)

def meets (t : CommitteeTally) (threshold : Percent) : Bool :=
  threshold.isMetBy t.yes t.denominator

end CommitteeTally

def CommitteeVote.encode (v : CommitteeVote) : Json :=
  .obj [("member", v.member.encode), ("vote", v.vote.encode),
    ("voted_at", .optional Timestamp.encode v.votedAt), ("recorded_at", v.recordedAt.encode)]

def CommitteeVote.decode (x : Json) : Decoded CommitteeVote := do
  let f ← x.fields ["member", "vote", "voted_at", "recorded_at"]
  return {
    member := ← f.required "member" (Identifier.decode .committeeMember)
    vote := ← f.required "vote" Vote.decode
    votedAt := ← f.omittable "voted_at" Timestamp.decode
    recordedAt := ← f.required "recorded_at" Timestamp.decode }

def CommitteeSnapshot.encode (s : CommitteeSnapshot) : Json :=
  .obj [("roster_size", .nat s.rosterSize.toNat),
    ("votes", Json.encodeList CommitteeVote.encode s.votes)]

def CommitteeSnapshot.decode (x : Json) : Decoded CommitteeSnapshot := do
  let f ← x.fields ["roster_size", "votes"]
  return {
    rosterSize := ← f.required "roster_size" Json.decodeUInt32
    votes := ← f.withDefault "votes" [] (Json.decodeList CommitteeVote.decode) }

def CommitteeTally.encode (t : CommitteeTally) : Json :=
  .obj [("roster_size", .nat t.rosterSize), ("yes", .nat t.yes), ("no", .nat t.no),
    ("abstain", .nat t.abstain), ("not_voted", .nat t.notVoted),
    ("denominator", .nat t.denominator), ("yes_pct", t.yesPct.encode), ("no_pct", t.noPct.encode),
    ("not_voted_pct", t.notVotedPct.encode), ("not_voted_clamped", .bool t.notVotedClamped),
    ("superseded_votes", .nat t.supersededVotes)]

def CommitteeTally.decode (x : Json) : Decoded CommitteeTally := do
  let f ← x.fields ["roster_size", "yes", "no", "abstain", "not_voted", "denominator", "yes_pct",
    "no_pct", "not_voted_pct", "not_voted_clamped", "superseded_votes"]
  return {
    rosterSize := (← f.required "roster_size" Json.decodeUInt32).toNat
    yes := (← f.required "yes" Json.decodeUInt32).toNat
    no := (← f.required "no" Json.decodeUInt32).toNat
    abstain := (← f.required "abstain" Json.decodeUInt32).toNat
    notVoted := (← f.required "not_voted" Json.decodeUInt32).toNat
    denominator := (← f.required "denominator" Json.decodeUInt32).toNat
    yesPct := ← f.required "yes_pct" Percent.decode
    noPct := ← f.required "no_pct" Percent.decode
    notVotedPct := ← f.required "not_voted_pct" Percent.decode
    notVotedClamped := ← f.required "not_voted_clamped" Json.decodeBool
    supersededVotes := (← f.required "superseded_votes" Json.decodeUInt64).toNat }

end GovernanceIndex
