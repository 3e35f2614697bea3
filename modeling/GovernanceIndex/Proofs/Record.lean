import GovernanceIndex.Proofs.Json.Lighter
import GovernanceIndex.Proofs.Amount
import GovernanceIndex.Record
import Mathlib.Data.List.ReduceOption

/-!
Records and their JSON forms. Decoding a form gives the record back, and so does decoding it without
some of its fields, where these are `null` or hold their defaults.
-/
namespace GovernanceIndex

open Json (Faithful ok_bind)

variable {defaults : List (String × Json)}

theorem Json.decodeUInt32_nat (n : UInt32) : decodeUInt32 (.nat n.toNat) = .ok n := by
  have hn := n.toNat_lt
  unfold decodeUInt32 nat
  dsimp only
  rw [if_pos ⟨Int.natCast_nonneg _, by exact_mod_cast hn⟩, Int.toNat_natCast, UInt32.ofNat_toNat]

theorem Json.decodeUInt64_word (n : UInt64) : decodeUInt64 (.word n) = .ok n := by
  have hn := n.toNat_lt
  unfold decodeUInt64 word nat
  dsimp only
  rw [if_pos ⟨Int.natCast_nonneg _, by exact_mod_cast hn⟩, Int.toNat_natCast, UInt64.ofNat_toNat]

theorem Json.decodeInt64_signedWord (n : Int64) : decodeInt64 (.signedWord n) = .ok n := by
  unfold decodeInt64 signedWord
  dsimp only
  rw [if_pos ⟨n.le_toInt, n.toInt_lt⟩, Int64.ofInt_toInt]

namespace Json.Faithful

theorem text (s : String) : Faithful defaults decodeText Json.str s := .plain rfl rfl

theorem bool (b : Bool) : Faithful defaults decodeBool Json.bool b := .plain rfl rfl

theorem uint32 (n : UInt32) : Faithful defaults decodeUInt32 (fun n => .nat n.toNat) n :=
  .plain rfl (decodeUInt32_nat n)

theorem word (n : UInt64) : Faithful defaults decodeUInt64 Json.word n :=
  .plain rfl (decodeUInt64_word n)

theorem signedWord (n : Int64) : Faithful defaults decodeInt64 Json.signedWord n :=
  .plain rfl (decodeInt64_signedWord n)

end Json.Faithful

theorem Epoch.faithful (e : Epoch) : Faithful defaults decode encode e := by
  refine .plain rfl ?_
  unfold decode encode toNat
  rw [Json.decodeUInt32_nat]
  rfl

theorem Amount.faithful (a : Amount) : Faithful defaults Amount.decode Amount.encode a :=
  .plain rfl (decode_text.mpr (spells_render a))

theorem Identifier.faithful {kind : IdKind} (a : Identifier kind) :
    Faithful defaults (decode kind) encode a := by
  refine .plain rfl (ok_bind (b := a.text) rfl ?_)
  rw [parse_text]
  rfl

theorem ActionType.faithful (a : ActionType) : Faithful defaults decode encode a :=
  .plain rfl (by cases a <;> rfl)

theorem Vote.faithful (v : Vote) : Faithful defaults decode encode v :=
  .plain rfl (by cases v <;> rfl)

theorem JobResult.faithful (r : JobResult) : Faithful defaults decode encode r :=
  .plain rfl (by cases r <;> rfl)

/-- A point in time is read back from its text. -/
def Timestamp.Readable (t : Timestamp) : Prop := parse? t.render = some t

theorem Timestamp.Readable.faithful {t : Timestamp} (h : t.Readable) :
    Faithful defaults decode encode t := by
  have hparse : parse? t.render = some t := h
  refine .plain rfl (ok_bind (b := t.render) rfl ?_)
  rw [hparse]
  rfl

theorem Timestamp.faithful_of_mem {os : List (Option Timestamp)}
    (h : ∀ t ∈ os.reduceOption, t.Readable) (o : Option Timestamp) (ho : o ∈ os) :
    ∀ t ∈ o, Faithful defaults decode encode t := by
  intro t ht
  cases ht
  exact (h t (List.reduceOption_mem_iff.mpr ho)).faithful

/-- The defaults of the fields in records of tallies. -/
def tallyDefaults : List (String × Json) :=
  [("always_abstain", Amount.encode 0), ("always_no_confidence", Amount.encode 0),
    ("inactive", Amount.encode 0), ("votes", .list [])]

theorem StakeBuckets.faithful (b : StakeBuckets) : Faithful tallyDefaults decode encode b := by
  refine .record rfl (fun _ => rfl) rfl (by decide) fun f hf => ?_
  -- Field by field, in the order in which the decoder asks for them.
  refine ok_bind (hf.required (Amount.faithful b.total) rfl rfl) ?_
  refine ok_bind (hf.required (Amount.faithful b.yes) rfl rfl) ?_
  refine ok_bind (hf.required (Amount.faithful b.no) rfl rfl) ?_
  refine ok_bind (hf.required (Amount.faithful b.abstain) rfl rfl) ?_
  refine ok_bind (hf.withDefault (Amount.faithful b.alwaysAbstain) rfl rfl rfl) ?_
  refine ok_bind (hf.withDefault (Amount.faithful b.alwaysNoConfidence) rfl rfl rfl) ?_
  exact ok_bind (hf.withDefault (Amount.faithful b.inactive) rfl rfl rfl) rfl

def CommitteeVote.timestamps (v : CommitteeVote) : List Timestamp :=
  [v.votedAt, some v.recordedAt].reduceOption

theorem CommitteeVote.faithful (v : CommitteeVote) (h : ∀ t ∈ v.timestamps, t.Readable) :
    Faithful tallyDefaults decode encode v := by
  refine .record rfl (fun _ => rfl) rfl (by decide) fun f hf => ?_
  refine ok_bind (hf.required (Identifier.faithful v.member) rfl rfl) ?_
  refine ok_bind (hf.required (Vote.faithful v.vote) rfl rfl) ?_
  refine ok_bind (hf.omittable (Timestamp.faithful_of_mem h v.votedAt (by simp)) rfl rfl) ?_
  exact ok_bind (hf.required (Timestamp.faithful_of_mem h _ (by simp) v.recordedAt rfl) rfl rfl) rfl

def CommitteeSnapshot.timestamps (s : CommitteeSnapshot) : List Timestamp :=
  s.votes.flatMap CommitteeVote.timestamps

theorem CommitteeSnapshot.faithful (s : CommitteeSnapshot) (h : ∀ t ∈ s.timestamps, t.Readable) :
    Faithful tallyDefaults decode encode s := by
  have hvote : ∀ v ∈ s.votes, Faithful tallyDefaults CommitteeVote.decode CommitteeVote.encode v :=
    fun v hv => v.faithful fun t ht => h t (List.mem_flatMap_of_mem hv ht)
  refine .record rfl (fun _ => rfl) rfl (by decide) fun f hf => ?_
  refine ok_bind (hf.required (.uint32 s.rosterSize) rfl rfl) ?_
  exact ok_bind (hf.withDefault (.list hvote) rfl rfl rfl) rfl

def ProposalSnapshot.timestamps (s : ProposalSnapshot) : List Timestamp :=
  s.committee.toList.flatMap CommitteeSnapshot.timestamps

theorem ProposalSnapshot.faithful (s : ProposalSnapshot) (h : ∀ t ∈ s.timestamps, t.Readable) :
    Faithful tallyDefaults decode encode s := by
  have hcommittee : ∀ c ∈ s.committee,
      Faithful tallyDefaults CommitteeSnapshot.decode CommitteeSnapshot.encode c :=
    fun c hc => c.faithful fun t ht => h t (List.mem_flatMap_of_mem (Option.mem_toList.mpr hc) ht)
  refine .record rfl (fun _ => rfl) rfl (by decide) fun f hf => ?_
  refine ok_bind (hf.required (Identifier.faithful s.proposalId) rfl rfl) ?_
  refine ok_bind (hf.required (ActionType.faithful s.actionType) rfl rfl) ?_
  refine ok_bind (hf.required (Epoch.faithful s.submissionEpoch) rfl rfl) ?_
  refine ok_bind (hf.omittable (fun b _ => StakeBuckets.faithful b) rfl rfl) ?_
  refine ok_bind (hf.omittable (fun b _ => StakeBuckets.faithful b) rfl rfl) ?_
  exact ok_bind (hf.omittable hcommittee rfl rfl) rfl

theorem FormulaCutover.faithful (c : FormulaCutover) : Faithful [] decode encode c := by
  refine .record rfl (fun _ => rfl) rfl (by decide) fun f hf => ?_
  refine ok_bind (hf.required (Epoch.faithful c.transitionEpoch) rfl rfl) ?_
  exact ok_bind (hf.omittable (fun a _ => Identifier.faithful a) rfl rfl) rfl

def JobLock.timestamps (l : JobLock) : List Timestamp :=
  [l.startedAt, l.expiresAt].reduceOption

theorem JobLock.faithful (l : JobLock) (h : ∀ t ∈ l.timestamps, t.Readable) :
    Faithful [] decode encode l := by
  refine .record rfl (fun _ => rfl) rfl (by decide) fun f hf => ?_
  refine ok_bind (hf.required (.text l.job) rfl rfl) ?_
  refine ok_bind (hf.required (.bool l.isRunning) rfl rfl) ?_
  refine ok_bind (hf.nullable (Timestamp.faithful_of_mem h l.startedAt (by simp)) rfl rfl) ?_
  refine ok_bind (hf.nullable (Timestamp.faithful_of_mem h l.expiresAt (by simp)) rfl rfl) ?_
  refine ok_bind (hf.nullable (fun a _ => Identifier.faithful a) rfl rfl) ?_
  refine ok_bind (hf.nullable (fun a _ => JobResult.faithful a) rfl rfl) ?_
  refine ok_bind (hf.nullable (fun a _ => .text a) rfl rfl) ?_
  exact ok_bind (hf.nullable (fun a _ => .word a) rfl rfl) rfl

def EpochCheckpoint.timestamps (c : EpochCheckpoint) : List Timestamp :=
  [c.drepsSyncedAt, c.totalsSyncedAt, c.delegatorsSyncedAt].reduceOption

theorem EpochCheckpoint.faithful (c : EpochCheckpoint) (h : ∀ t ∈ c.timestamps, t.Readable) :
    Faithful [] decode encode c := by
  refine .record rfl (fun _ => rfl) rfl (by decide) fun f hf => ?_
  refine ok_bind (hf.required (Epoch.faithful c.epoch) rfl rfl) ?_
  refine ok_bind (hf.nullable (Timestamp.faithful_of_mem h c.drepsSyncedAt (by simp)) rfl rfl) ?_
  refine ok_bind (hf.nullable (Timestamp.faithful_of_mem h c.totalsSyncedAt (by simp)) rfl rfl) ?_
  exact ok_bind
    (hf.nullable (Timestamp.faithful_of_mem h c.delegatorsSyncedAt (by simp)) rfl rfl) rfl

theorem DelegateSnapshot.faithful (s : DelegateSnapshot) : Faithful [] decode encode s := by
  refine .record rfl (fun _ => rfl) rfl (by decide) fun f hf => ?_
  refine ok_bind (hf.required (Epoch.faithful s.epoch) rfl rfl) ?_
  refine ok_bind (hf.required (Identifier.faithful s.delegate) rfl rfl) ?_
  refine ok_bind (hf.required (.bool s.registered) rfl rfl) ?_
  refine ok_bind (hf.required (.bool s.active) rfl rfl) ?_
  exact ok_bind (hf.required (Amount.faithful s.votingPower) rfl rfl) rfl

theorem EpochTotals.faithful (t : EpochTotals) : Faithful [] decode encode t := by
  refine .record rfl (fun _ => rfl) rfl (by decide) fun f hf => ?_
  refine ok_bind (hf.required (Epoch.faithful t.epoch) rfl rfl) ?_
  refine ok_bind (hf.nullable (fun a _ => Amount.faithful a) rfl rfl) ?_
  refine ok_bind (hf.nullable (fun a _ => Amount.faithful a) rfl rfl) ?_
  refine ok_bind (hf.nullable (fun a _ => Amount.faithful a) rfl rfl) ?_
  exact ok_bind (hf.nullable (fun a _ => Amount.faithful a) rfl rfl) rfl

theorem DelegatorSummary.faithful (s : DelegatorSummary) : Faithful [] decode encode s := by
  refine .record rfl (fun _ => rfl) rfl (by decide) fun f hf => ?_
  refine ok_bind (hf.required (Epoch.faithful s.epoch) rfl rfl) ?_
  refine ok_bind (hf.required (Identifier.faithful s.delegate) rfl rfl) ?_
  refine ok_bind (hf.required (.word s.count) rfl rfl) ?_
  exact ok_bind (hf.required (Amount.faithful s.amount) rfl rfl) rfl

theorem DelegationState.faithful (s : DelegationState) : Faithful [] decode encode s := by
  refine .record rfl (fun _ => rfl) rfl (by decide) fun f hf => ?_
  refine ok_bind (hf.required (Identifier.faithful s.address) rfl rfl) ?_
  refine ok_bind (hf.required (Identifier.faithful s.delegate) rfl rfl) ?_
  refine ok_bind (hf.nullable (fun a _ => Amount.faithful a) rfl rfl) ?_
  exact ok_bind (hf.required (Epoch.faithful s.epochObserved) rfl rfl) rfl

def DelegationChange.timestamps (c : DelegationChange) : List Timestamp := [c.recordedAt]

theorem DelegationChange.faithful (c : DelegationChange) (h : ∀ t ∈ c.timestamps, t.Readable) :
    Faithful [] decode encode c := by
  refine .record rfl (fun _ => rfl) rfl (by decide) fun f hf => ?_
  refine ok_bind (hf.required (Identifier.faithful c.address) rfl rfl) ?_
  refine ok_bind (hf.nullable (fun a _ => Identifier.faithful a) rfl rfl) ?_
  refine ok_bind (hf.required (Identifier.faithful c.target) rfl rfl) ?_
  refine ok_bind (hf.required (Epoch.faithful c.epoch) rfl rfl) ?_
  refine ok_bind (hf.nullable (fun a _ => Amount.faithful a) rfl rfl) ?_
  exact ok_bind (hf.required (h c.recordedAt List.mem_cons_self).faithful rfl rfl) rfl

theorem BackfillCursor.faithful (c : BackfillCursor) : Faithful [] decode encode c := by
  refine .record rfl (fun _ => rfl) rfl (by decide) fun f hf => ?_
  refine ok_bind (hf.required (.text c.job) rfl rfl) ?_
  refine ok_bind (hf.required (Identifier.faithful c.lastAddress) rfl rfl) ?_
  refine ok_bind (hf.required (.word c.processed) rfl rfl) ?_
  exact ok_bind (hf.required (.word c.total) rfl rfl) rfl

def delegateDefaults : List (String × Json) := [("registered", .bool false), ("active", .bool false)]

def historyDefaults : List (String × Json) :=
  [("epoch_slot", .word 0), ("absolute_slot", .word 0), ("block_time", .signedWord 0),
    ("delegations", .list [])]

theorem Tip.faithful (t : Tip) : Faithful [] decode encode t := by
  refine .record rfl (fun _ => rfl) rfl (by decide) fun f hf => ?_
  refine ok_bind (hf.required (Epoch.faithful t.epoch) rfl rfl) ?_
  refine ok_bind (hf.omittable (fun a _ => .word a) rfl rfl) ?_
  exact ok_bind (hf.omittable (fun a _ => .signedWord a) rfl rfl) rfl

theorem ListedDelegate.faithful (d : ListedDelegate) :
    Faithful delegateDefaults decode encode d := by
  refine .record rfl (fun _ => rfl) rfl (by decide) fun f hf => ?_
  refine ok_bind (hf.required (Identifier.faithful d.delegate) rfl rfl) ?_
  exact ok_bind (hf.withDefault (.bool d.registered) rfl rfl rfl) rfl

theorem DelegateInfo.faithful (d : DelegateInfo) : Faithful delegateDefaults decode encode d := by
  refine .record rfl (fun _ => rfl) rfl (by decide) fun f hf => ?_
  refine ok_bind (hf.required (Identifier.faithful d.delegate) rfl rfl) ?_
  refine ok_bind (hf.withDefault (.bool d.registered) rfl rfl rfl) ?_
  exact ok_bind (hf.withDefault (.bool d.active) rfl rfl rfl) rfl

theorem DelegatePower.faithful (p : DelegatePower) : Faithful [] decode encode p := by
  refine .record rfl (fun _ => rfl) rfl (by decide) fun f hf => ?_
  refine ok_bind (hf.required (Identifier.faithful p.delegate) rfl rfl) ?_
  refine ok_bind (hf.required (Epoch.faithful p.epoch) rfl rfl) ?_
  exact ok_bind (hf.required (Amount.faithful p.amount) rfl rfl) rfl

theorem SupplyTotals.faithful (t : SupplyTotals) : Faithful [] decode encode t := by
  refine .record rfl (fun _ => rfl) rfl (by decide) fun f hf => ?_
  refine ok_bind (hf.required (Epoch.faithful t.epoch) rfl rfl) ?_
  refine ok_bind (hf.omittable (fun a _ => Amount.faithful a) rfl rfl) ?_
  exact ok_bind (hf.omittable (fun a _ => Amount.faithful a) rfl rfl) rfl

theorem DelegationTotal.faithful (t : DelegationTotal) : Faithful [] decode encode t := by
  refine .record rfl (fun _ => rfl) rfl (by decide) fun f hf => ?_
  refine ok_bind (hf.required (Epoch.faithful t.epoch) rfl rfl) ?_
  exact ok_bind (hf.omittable (fun a _ => Amount.faithful a) rfl rfl) rfl

theorem PoolPower.faithful (p : PoolPower) : Faithful [] decode encode p := by
  refine .record rfl (fun _ => rfl) rfl (by decide) fun f hf => ?_
  refine ok_bind (hf.required (.text p.pool) rfl rfl) ?_
  refine ok_bind (hf.required (Epoch.faithful p.epoch) rfl rfl) ?_
  exact ok_bind (hf.required (Amount.faithful p.amount) rfl rfl) rfl

theorem Delegator.faithful (d : Delegator) : Faithful [] decode encode d := by
  refine .record rfl (fun _ => rfl) rfl (by decide) fun f hf => ?_
  refine ok_bind (hf.required (Identifier.faithful d.address) rfl rfl) ?_
  exact ok_bind (hf.required (Amount.faithful d.amount) rfl rfl) rfl

theorem DelegationUpdate.faithful (u : DelegationUpdate) :
    Faithful historyDefaults decode encode u := by
  refine .record rfl (fun _ => rfl) rfl (by decide) fun f hf => ?_
  refine ok_bind (hf.required (Identifier.faithful u.delegate) rfl rfl) ?_
  refine ok_bind (hf.required (Epoch.faithful u.epoch) rfl rfl) ?_
  refine ok_bind (hf.withDefault (.word u.epochSlot) (Json.decodeUInt64_word 0) rfl rfl) ?_
  refine ok_bind (hf.withDefault (.word u.absoluteSlot) (Json.decodeUInt64_word 0) rfl rfl) ?_
  exact ok_bind
    (hf.withDefault (.signedWord u.blockTime) (Json.decodeInt64_signedWord 0) rfl rfl) rfl

theorem DelegationHistory.faithful (h : DelegationHistory) :
    Faithful historyDefaults decode encode h := by
  refine .record rfl (fun _ => rfl) rfl (by decide) fun f hf => ?_
  refine ok_bind (hf.required (Identifier.faithful h.address) rfl rfl) ?_
  exact ok_bind (hf.withDefault (.list fun u _ => DelegationUpdate.faithful u) rfl rfl rfl) rfl

/-- A type of records: how they are written and read, the defaults of the fields in them, and the
points in time that a record holds. -/
structure RecordForm where
  Value : Type
  encode : Value → Json
  decode : Json → Decoded Value
  defaults : List (String × Json)
  timestamps : Value → List Timestamp

namespace RecordForm

/-- A type of records that hold no points in time. -/
def timeless {α : Type} (encode : α → Json) (decode : Json → Decoded α)
    (defaults : List (String × Json)) : RecordForm :=
  ⟨α, encode, decode, defaults, fun _ => []⟩

/-- The records without percentages, as they are stored or returned by the ledger service. -/
def all : List RecordForm :=
  [timeless StakeBuckets.encode StakeBuckets.decode tallyDefaults,
    ⟨_, CommitteeVote.encode, CommitteeVote.decode, tallyDefaults, CommitteeVote.timestamps⟩,
    ⟨_, CommitteeSnapshot.encode, CommitteeSnapshot.decode, tallyDefaults,
      CommitteeSnapshot.timestamps⟩,
    ⟨_, ProposalSnapshot.encode, ProposalSnapshot.decode, tallyDefaults,
      ProposalSnapshot.timestamps⟩,
    timeless FormulaCutover.encode FormulaCutover.decode [],
    ⟨_, JobLock.encode, JobLock.decode, [], JobLock.timestamps⟩,
    ⟨_, EpochCheckpoint.encode, EpochCheckpoint.decode, [], EpochCheckpoint.timestamps⟩,
    timeless DelegateSnapshot.encode DelegateSnapshot.decode [],
    timeless EpochTotals.encode EpochTotals.decode [],
    timeless DelegatorSummary.encode DelegatorSummary.decode [],
    timeless DelegationState.encode DelegationState.decode [],
    ⟨_, DelegationChange.encode, DelegationChange.decode, [], DelegationChange.timestamps⟩,
    timeless BackfillCursor.encode BackfillCursor.decode [],
    timeless Tip.encode Tip.decode [],
    timeless ListedDelegate.encode ListedDelegate.decode delegateDefaults,
    timeless DelegateInfo.encode DelegateInfo.decode delegateDefaults,
    timeless DelegatePower.encode DelegatePower.decode [],
    timeless SupplyTotals.encode SupplyTotals.decode [],
    timeless DelegationTotal.encode DelegationTotal.decode [],
    timeless PoolPower.encode PoolPower.decode [],
    timeless Delegator.encode Delegator.decode [],
    timeless DelegationUpdate.encode DelegationUpdate.decode historyDefaults,
    timeless DelegationHistory.encode DelegationHistory.decode historyDefaults]

/-- Each value of a form whose points in time are readable has a faithful encoding. -/
def IsFaithful (form : RecordForm) : Prop :=
  ∀ v, (∀ t ∈ form.timestamps v, t.Readable) →
    Faithful form.defaults form.decode form.encode v

theorem isFaithful_timeless {α : Type} {encode : α → Json} {decode : Json → Decoded α}
    (h : ∀ v, Faithful defaults decode encode v) : (timeless encode decode defaults).IsFaithful :=
  fun v _ => h v

theorem isFaithful : ∀ form ∈ all, form.IsFaithful := by
  simp only [all, List.forall_mem_cons]
  exact ⟨isFaithful_timeless StakeBuckets.faithful, CommitteeVote.faithful,
    CommitteeSnapshot.faithful, ProposalSnapshot.faithful,
    isFaithful_timeless FormulaCutover.faithful, JobLock.faithful, EpochCheckpoint.faithful,
    isFaithful_timeless DelegateSnapshot.faithful, isFaithful_timeless EpochTotals.faithful,
    isFaithful_timeless DelegatorSummary.faithful, isFaithful_timeless DelegationState.faithful,
    DelegationChange.faithful, isFaithful_timeless BackfillCursor.faithful,
    isFaithful_timeless Tip.faithful, isFaithful_timeless ListedDelegate.faithful,
    isFaithful_timeless DelegateInfo.faithful, isFaithful_timeless DelegatePower.faithful,
    isFaithful_timeless SupplyTotals.faithful, isFaithful_timeless DelegationTotal.faithful,
    isFaithful_timeless PoolPower.faithful, isFaithful_timeless Delegator.faithful,
    isFaithful_timeless DelegationUpdate.faithful,
    isFaithful_timeless DelegationHistory.faithful, nofun⟩

/-- Every record whose points in time are read back from their texts is read back from its form, and
also from its form without any of the fields, its own or those of the records in it, that are `null`
or hold their defaults. -/
theorem roundTrip : ∀ form ∈ all, ∀ v : form.Value,
    (∀ t ∈ form.timestamps v, Timestamp.parse? t.render = some t) →
      form.decode (form.encode v) = .ok v ∧
        ∀ y, Json.Lighter form.defaults (form.encode v) y → form.decode y = .ok v := by
  intro form hform v hv
  have hfaithful : Faithful form.defaults form.decode form.encode v := isFaithful form hform v hv
  exact ⟨hfaithful.reads _ (.same _), hfaithful.reads⟩

/-- A proposal without data on pools, whose committee voted at an unknown time. -/
def votedProposal : ProposalSnapshot where
  proposalId := ⟨"gov_action1", by decide⟩
  actionType := .infoAction
  submissionEpoch := ⟨530⟩
  drep := some { total := 10 ^ 30, yes := 10 ^ 30, no := 0, abstain := 0 }
  committee := some ⟨1, [⟨⟨"cc_hot1", by decide⟩, .yes, none, ⟨1735693200, 500000000⟩⟩]⟩

/-- The form of the proposal without every field that may be left out. -/
def votedProposalBrief : Json :=
  .obj [("proposal_id", .str "gov_action1"), ("action_type", .str "info_action"),
    ("submission_epoch", .nat 530),
    ("drep", .obj [("total", Amount.encode (10 ^ 30)), ("yes", Amount.encode (10 ^ 30)),
      ("no", .str "0"), ("abstain", .str "0")]),
    ("committee", .obj [("roster_size", .nat 1),
      ("votes", .list [.obj [("member", .str "cc_hot1"), ("vote", .str "yes"),
        ("recorded_at", .str "2025-01-01T01:00:00.500Z")]])])]

theorem lighter_votedProposalBrief :
    Json.Lighter tallyDefaults votedProposal.encode votedProposalBrief := by
  have hvote : Json.Lighter tallyDefaults
      (.obj [("member", .str "cc_hot1"), ("vote", .str "yes"), ("voted_at", .null),
        ("recorded_at", .str "2025-01-01T01:00:00.500Z")])
      (.obj [("member", .str "cc_hot1"), ("vote", .str "yes"),
        ("recorded_at", .str "2025-01-01T01:00:00.500Z")]) :=
    .object (.keep (.same _) (.keep (.same _) (.leave (.inl rfl) (.keep (.same _) .nil))))
  refine .object (.keep (.same _) (.keep (.same _) (.keep (.same _) (.keep (.object ?_)
    (.leave (.inl rfl) (.keep (.object ?_) .nil))))))
  · exact .keep (.same _) (.keep (.same _) (.keep (.same _) (.keep (.same _)
      (.leave (.inr rfl) (.leave (.inr rfl) (.leave (.inr rfl) .nil))))))
  · exact .keep (.same _) (.keep (.list (.cons hvote .nil)) .nil)

/-- The proposal is read back although every field that may be left out is. -/
theorem roundTrip_votedProposal :
    (∀ t ∈ votedProposal.timestamps, Timestamp.parse? t.render = some t) ∧
      Json.Lighter tallyDefaults votedProposal.encode votedProposalBrief ∧
      ProposalSnapshot.decode votedProposalBrief = .ok votedProposal := by
  have hreadable : ∀ t ∈ votedProposal.timestamps, Timestamp.parse? t.render = some t := by
    intro t ht
    cases List.mem_singleton.mp ht
    rfl
  have hform : ⟨ProposalSnapshot, ProposalSnapshot.encode, ProposalSnapshot.decode, tallyDefaults,
      ProposalSnapshot.timestamps⟩ ∈ all :=
    List.mem_of_getElem? (i := 3) rfl
  exact ⟨hreadable, lighter_votedProposalBrief,
    (roundTrip _ hform votedProposal hreadable).2 _ lighter_votedProposalBrief⟩

end RecordForm

end GovernanceIndex
