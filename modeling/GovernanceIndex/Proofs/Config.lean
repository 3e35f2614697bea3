import GovernanceIndex.Config
import GovernanceIndex.Proofs.Ledger.RetryLoop
import GovernanceIndex.Proofs.Text.Numeral

/-!
What the texts of a configuration set, and how long its policy waits behind a failed attempt. The
longest delay governs what a service asks for only where delays grow. At a fixed distance its text
is read like any other, but the base delay stands in its place.
-/
namespace GovernanceIndex

theorem Text.trim_toList_eq_nil_iff {text : String} :
    (trim text).toList = [] ↔ ∀ c ∈ text.toList, isBlank c := by
  have hnone : ∀ c ∈ ([] : List Char), ¬ isBlank c := fun c hc => absurd hc List.not_mem_nil
  rw [trim, String.toList_ofList, Encloses.eq_trimBlanks_iff hnone]
  constructor
  · rintro ⟨before, behind, htext, hblank⟩
    rw [htext, List.append_nil]
    exact hblank
  · exact fun hblank => ⟨text.toList, [], by rw [List.append_nil, List.append_nil],
      by rwa [List.append_nil]⟩

namespace Config

variable {lookup : String → Option String} {name : String} {config : Config} {text : String}

theorem exists_of_bind {α β : Type} {x : Reading α} {f : α → Reading β} {b : β}
    (h : (x >>= f) = .ok b) : ∃ a, x = .ok a ∧ f a = .ok b := by
  rcases x with fault | a
  · cases h
  · exact ⟨a, rfl, h⟩

/-- A name sets what its text means, or the default if it has no text or one of blanks only. -/
def Sets {α : Type} (lookup : String → Option String) (name : String) (fallback : α)
    (Means : String → α → Prop) (a : α) : Prop :=
  match lookup name with
  | none => a = fallback
  | some text =>
    (∀ c ∈ text.toList, Text.isBlank c) ∧ a = fallback ∨
      ¬ (∀ c ∈ text.toList, Text.isBlank c) ∧ Means text a

/-- A text means so many milliseconds: it is a numeral for a word of 64 bits. -/
def MeansMillis (text : String) (d : Duration) : Prop :=
  ∃ n < 2 ^ 64, Text.HoldsNumber text n ∧ d.nanos = n * 1000000

def MeansStrategy (text : String) (s : BackoffStrategy) : Prop :=
  Text.Encloses text.toList s.name.toList

theorem readOr_eq_ok_iff {α : Type} {fallback a : α} {read : String → Except ConfigFault α}
    {Means : String → α → Prop}
    (hread : ∀ text a, read (Text.trim text) = .ok a ↔ Means text a) :
    readOr lookup name fallback read = .ok a ↔ Sets lookup name fallback Means a := by
  have hdefault : (.ok fallback : Reading α) = .ok a ↔ a = fallback :=
    ⟨fun h => (Except.ok.inj h).symm, fun h => congrArg _ h.symm⟩
  unfold readOr text? Sets
  rcases lookup name with _ | text
  · exact hdefault
  · rw [Option.map_some, Option.filter_some]
    change _ ↔ _ ∧ a = fallback ∨ ¬ _ ∧ Means text a
    by_cases hblank : ∀ c ∈ text.toList, Text.isBlank c
    · rw [if_neg (by simpa using Text.trim_toList_eq_nil_iff.mpr hblank), and_iff_right hblank,
        or_iff_left fun h => h.1 hblank]
      exact hdefault
    · rw [if_pos (by simpa using mt Text.trim_toList_eq_nil_iff.mp hblank), and_iff_right hblank,
        or_iff_right fun h => hblank h.1, ← hread]
      exact mapError_eq_ok_iff

theorem word64_trim_eq_ok_iff {n : ℕ} :
    word64 (Text.trim text) = .ok n ↔ n < 2 ^ 64 ∧ Text.HoldsNumber text n := by
  rw [← Word.read_trim_eq_ok_iff (by decide)]
  exact mapError_eq_ok_iff

theorem millis_trim_eq_ok_iff (text : String) (d : Duration) :
    millis (Text.trim text) = .ok d ↔ MeansMillis text d := by
  have hlength {n : ℕ} (hn : n < 2 ^ 64) :
      (Duration.ofMillis (UInt64.ofNat n)).nanos = n * 1000000 := by
    rw [Duration.ofMillis_nanos, UInt64.toNat_ofNat_of_lt' hn]
  unfold millis
  constructor
  · intro h
    rcases hword : word64 (Text.trim text) with fault | n <;> rw [hword] at h
    · cases h
    · cases h
      obtain ⟨hn, hholds⟩ := word64_trim_eq_ok_iff.mp hword
      exact ⟨n, hn, hholds, hlength hn⟩
  · rintro ⟨n, hn, hholds, hd⟩
    rw [word64_trim_eq_ok_iff.mpr ⟨hn, hholds⟩]
    exact congrArg _ (Duration.ext ((hlength hn).trans hd.symm))

theorem strategy_trim_eq_ok_iff (text : String) (s : BackoffStrategy) :
    strategy (Text.trim text) = .ok s ↔ MeansStrategy text s := by
  have hname (t : String) : strategy t = .ok s ↔ t = s.name := by
    have hfinds : BackoffStrategy.names.lookup t = some s ↔ t = s.name := by
      unfold BackoffStrategy.names
      rw [List.lookup_cons, List.lookup_cons, List.lookup_nil]
      cases s <;> grind [BackoffStrategy.name]
    rw [← hfinds]
    unfold strategy
    rcases BackoffStrategy.names.lookup t with _ | s'
    · exact iff_of_false nofun nofun
    · exact ⟨fun h => Except.ok.inj h ▸ rfl, fun h => Option.some.inj h ▸ rfl⟩
  have hplain : ∀ c ∈ s.name.toList, ¬ Text.isBlank c := by
    rw [← List.any_eq_false]
    cases s <;> rfl
  rw [hname, MeansStrategy, ← Text.Encloses.eq_trimBlanks_iff hplain, Text.trim,
    ← String.toList_inj, String.toList_ofList]

/-- The longest wait behind a failed attempt: at a fixed distance it is the base delay. -/
def longestWait (s : BackoffStrategy) (base longest : Duration) : Duration :=
  match s with
  | .fixed => base
  | .exponential => longest

variable {s : BackoffStrategy} {base longest : Duration}

theorem longestWait_eq_iff :
    longestWait s base longest = longest ↔ s = .exponential ∨ base = longest := by
  cases s with
  | fixed => exact (or_iff_right nofun).symm
  | exponential => exact iff_of_true rfl (.inl rfl)

theorem exists_retryPolicy (h : ofLookup lookup = .ok config)
    (hs : Sets lookup "GOVSYNC_RETRY_STRATEGY" .exponential MeansStrategy s)
    (hbase : Sets lookup "GOVSYNC_RETRY_BASE_DELAY_MS" (.ofMillis 500) MeansMillis base)
    (hlongest : Sets lookup "GOVSYNC_RETRY_MAX_DELAY_MS" (.ofSecs 30) MeansMillis longest) :
    ∃ n, config.settings.retry = retryPolicy n s base longest := by
  unfold ofLookup at h
  obtain ⟨_, -, h⟩ := exists_of_bind h
  obtain ⟨s', hs', h⟩ := exists_of_bind h
  obtain ⟨n, -, h⟩ := exists_of_bind h
  obtain ⟨base', hbase', h⟩ := exists_of_bind h
  obtain ⟨longest', hlongest', h⟩ := exists_of_bind h
  iterate 15 obtain ⟨_, -, h⟩ := exists_of_bind h
  cases h
  cases hs'.symm.trans ((readOr_eq_ok_iff strategy_trim_eq_ok_iff).mpr hs)
  cases hbase'.symm.trans ((readOr_eq_ok_iff millis_trim_eq_ok_iff).mpr hbase)
  cases hlongest'.symm.trans ((readOr_eq_ok_iff millis_trim_eq_ok_iff).mpr hlongest)
  exact ⟨n, rfl⟩

theorem retryPolicy_of_attempts {n : ℕ} (h : 2 ≤ (retryPolicy n s base longest).attempts) :
    retryPolicy n s base longest =
      ⟨UInt32.ofNat n, base, longestWait s base longest, s⟩ := by
  unfold retryPolicy at h ⊢
  split
  · next hone =>
    rw [if_pos hone] at h
    exact absurd h (by decide)
  · cases s <;> rfl

theorem delayFor_fixed {k : UInt32} {attempt : ℕ} (hattempt : attempt ≠ 0) :
    RetryPolicy.delayFor ⟨k, base, base, .fixed⟩ attempt = base := by
  unfold RetryPolicy.delayFor
  rw [if_neg hattempt]
  exact Duration.min_eq_left le_rfl

/-- With a configuration that allows a second attempt, a wait that the service asks for is cut to
the longest delay if delays grow, and to the base delay at a fixed distance; no other wait is longer
than that. So the longest delay that is set governs what is asked for just if delays grow or the
base delay is the same, and it bounds the other waits just if delays grow or the base delay is no
longer. -/
theorem retries_capped (h : ofLookup lookup = .ok config)
    (hrepeats : 2 ≤ config.settings.retry.attempts)
    (hs : Sets lookup "GOVSYNC_RETRY_STRATEGY" .exponential MeansStrategy s)
    (hbase : Sets lookup "GOVSYNC_RETRY_BASE_DELAY_MS" (.ofMillis 500) MeansMillis base)
    (hlongest : Sets lookup "GOVSYNC_RETRY_MAX_DELAY_MS" (.ofSecs 30) MeansMillis longest) :
    let wait := config.settings.retry.delayWithHint
    (∀ attempt hint, wait attempt (some hint) = hint.min (longestWait s base longest)) ∧
      (∀ attempt, (wait attempt none).nanos ≤ (longestWait s base longest).nanos) ∧
      ((∀ attempt hint, wait attempt (some hint) = hint.min longest) ↔
        s = .exponential ∨ base = longest) ∧
      ((∀ attempt, (wait attempt none).nanos ≤ longest.nanos) ↔
        s = .exponential ∨ base.nanos ≤ longest.nanos) := by
  obtain ⟨n, hretry⟩ := exists_retryPolicy h hs hbase hlongest
  rw [hretry] at hrepeats ⊢
  rw [retryPolicy_of_attempts hrepeats]
  intro wait
  have hasked (attempt : ℕ) (hint : Duration) :
      wait attempt (some hint) = hint.min (longestWait s base longest) := rfl
  have hbound (attempt : ℕ) : (wait attempt none).nanos ≤ (longestWait s base longest).nanos :=
    RetryPolicy.delayFor_le _ attempt
  refine ⟨hasked, hbound, ?_, ?_⟩
  · rw [← longestWait_eq_iff, ← Duration.forall_min_eq_iff]
    exact ⟨fun hall => hall 1, fun hall _ => hall⟩
  · cases s with
    | fixed =>
      rw [or_iff_right nofun]
      constructor
      · intro hall
        have hfirst := hall 1
        rwa [show wait 1 none = base from delayFor_fixed one_ne_zero] at hfirst
      · exact fun hle attempt => (hbound attempt).trans hle
    | exponential => exact iff_of_true hbound (.inl rfl)

/-- Three attempts at a fixed distance of 200 ms, with a longest delay of a minute. -/
def fixedDistance : String → Option String
  | "GOVSYNC_RETRY_STRATEGY" => some "fixed"
  | "GOVSYNC_RETRY_MAX_ATTEMPTS" => some "3"
  | "GOVSYNC_RETRY_BASE_DELAY_MS" => some "200"
  | "GOVSYNC_RETRY_MAX_DELAY_MS" => some "60000"
  | _ => none

theorem fixedDistance_sets :
    Sets fixedDistance "GOVSYNC_RETRY_STRATEGY" .exponential MeansStrategy .fixed ∧
      Sets fixedDistance "GOVSYNC_RETRY_BASE_DELAY_MS" (.ofMillis 500) MeansMillis (.ofMillis 200) ∧
      Sets fixedDistance "GOVSYNC_RETRY_MAX_DELAY_MS" (.ofSecs 30) MeansMillis (.ofSecs 60) :=
  ⟨(readOr_eq_ok_iff strategy_trim_eq_ok_iff).mp rfl,
    (readOr_eq_ok_iff millis_trim_eq_ok_iff).mp rfl,
    (readOr_eq_ok_iff millis_trim_eq_ok_iff).mp rfl⟩

/-- At a distance of 200 ms the minute does not govern what the service asks for. -/
theorem retries_capped_fixedDistance :
    ∃ config, ofLookup fixedDistance = .ok config ∧ 2 ≤ config.settings.retry.attempts ∧
      let wait := config.settings.retry.delayWithHint
      (∀ attempt hint, wait attempt (some hint) = hint.min (.ofMillis 200)) ∧
        ¬ (∀ attempt hint, wait attempt (some hint) = hint.min (.ofSecs 60)) ∧
        ∀ attempt, (wait attempt none).nanos ≤ (Duration.ofSecs 60).nanos := by
  obtain ⟨hs, hbase, hlongest⟩ := fixedDistance_sets
  have hread : ofLookup fixedDistance = .ok _ := rfl
  have hrepeats : 2 ≤ (RetryPolicy.fixed 3 (.ofMillis 200)).attempts := by decide
  obtain ⟨hasked, -, hgoverns, hbounds⟩ := retries_capped hread hrepeats hs hbase hlongest
  exact ⟨_, rfl, hrepeats, hasked, mt hgoverns.mp (by decide), hbounds.mpr (by decide)⟩

/-- A request to wait ten seconds, well within the minute, is cut to 200 ms. -/
theorem fixedDistance_cuts_request :
    ∃ config, ofLookup fixedDistance = .ok config ∧ 2 ≤ config.settings.retry.attempts ∧
      Sets fixedDistance "GOVSYNC_RETRY_MAX_DELAY_MS" (.ofSecs 30) MeansMillis (.ofSecs 60) ∧
      (Duration.ofSecs 10).min (.ofSecs 60) = .ofSecs 10 ∧
      config.settings.retry.delayWithHint 1 (some (.ofSecs 10)) = .ofMillis 200 ∧
      Duration.ofMillis 200 ≠ .ofSecs 10 :=
  ⟨_, rfl, by decide, fixedDistance_sets.2.2, by decide, by decide, by decide⟩

end Config

end GovernanceIndex
