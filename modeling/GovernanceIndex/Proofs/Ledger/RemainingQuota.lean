import GovernanceIndex.Ledger.Http
import GovernanceIndex.Proofs.Ledger.RetryLoop
import GovernanceIndex.Proofs.Text.Numeral

/-!
The remaining quota of the service over HTTP. However requests and the ends of their exchanges
follow each other, it is what the last response that states a quota stated, whatever else came back.
-/
namespace GovernanceIndex

open LedgerService (behind react)

/-- Whether a header has a name, in letters of any case. -/
def IsHeader (name : String) (header : String × String) : Prop :=
  header.1.toList.map Char.toLower = name.toList

/-- A response states a quota: the first header of the name is printable ASCII, tabs allowed, and
holds a number below 2^64. -/
def HttpResponse.StatesQuota (r : HttpResponse) (n : ℕ) : Prop :=
  ∃ before name value rest, r.headers = before ++ (name, value) :: rest ∧
    IsHeader "x-ratelimit-remaining" (name, value) ∧
    (∀ header ∈ before, ¬ IsHeader "x-ratelimit-remaining" header) ∧
    (∀ c ∈ value.toList, c = '\t' ∨ ' ' ≤ c ∧ c ≤ '~') ∧
    n < 2 ^ 64 ∧ Text.HoldsNumber value n

/-- What has come back states a quota. -/
def Exchange.StatesQuota (n : ℕ) : Exchange → Prop
  | .answered r => r.StatesQuota n
  | _ => False

/-- A quota is the last one that was stated: none was stated since. -/
def LastStated (n : ℕ) (received : List Exchange) : Prop :=
  ∃ before exchange rest, received = before ++ exchange :: rest ∧ exchange.StatesQuota n ∧
    ∀ later ∈ rest, ¬ ∃ m, later.StatesQuota m

/-- A connection with the ends of its exchanges so far. -/
structure RecordedConnection (C : Type) where
  connection : C
  received : List Exchange

instance {C : Type} [Connection C] : Connection (RecordedConnection C) where
  exchange c sent :=
    let (exchange, connection) := Connection.exchange c.connection sent
    (exchange, ⟨connection, c.received ++ [exchange]⟩)

theorem RecordedConnection.exchange_eq {C : Type} [Connection C] (c : RecordedConnection C)
    (sent : HttpRequest) : Connection.exchange c sent =
      ((Connection.exchange c.connection sent).1, ⟨(Connection.exchange c.connection sent).2,
        c.received ++ [(Connection.exchange c.connection sent).1]⟩) := rfl

namespace HttpResponse

variable {r : HttpResponse} {name value : String}

theorem isShown_iff {c : Char} :
    (c = '\t' || Web.isPrintable c || c = ' ') ↔ c = '\t' ∨ ' ' ≤ c ∧ c ≤ '~' := by
  have htab : c = '\t' ↔ c.toNat = 9 := Char.toNat_inj.symm
  have hspace : c = ' ' ↔ c.toNat = 32 := Char.toNat_inj.symm
  have hrange : (' ' ≤ c ∧ c ≤ '~') ↔ 32 ≤ c.toNat ∧ c.toNat ≤ 126 := by
    rw [Char.le_def, Char.le_def, UInt32.le_iff_toNat_le, UInt32.le_iff_toNat_le]
    rfl
  rw [hrange, Bool.or_eq_true, Bool.or_eq_true, decide_eq_true_iff, decide_eq_true_iff, htab,
    hspace, Web.isPrintable, Bool.and_eq_true, decide_eq_true_iff, decide_eq_true_iff]
  omega

theorem header?_eq_some_iff : r.header? name = some value ↔
    ∃ before key rest, r.headers = before ++ (key, value) :: rest ∧ IsHeader name (key, value) ∧
      (∀ header ∈ before, ¬ IsHeader name header) ∧
      ∀ c ∈ value.toList, c = '\t' ∨ ' ' ≤ c ∧ c ≤ '~' := by
  have hshown : (value.toList.all fun c => c = '\t' || Web.isPrintable c || c = ' ') ↔
      ∀ c ∈ value.toList, c = '\t' ∨ ' ' ≤ c ∧ c ≤ '~' := by
    rw [List.all_eq_true]
    exact forall₂_congr fun c _ => isShown_iff
  unfold header?
  constructor
  · intro h
    split at h
    · next key found hfind =>
      obtain ⟨hfound, hvalue⟩ := Option.ite_none_right_eq_some.mp h
      cases hvalue
      obtain ⟨hname, before, rest, hheaders, hbefore⟩ := List.find?_eq_some_iff_append.mp hfind
      refine ⟨before, key, rest, hheaders, by simpa [IsHeader] using hname, ?_, hshown.mp hfound⟩
      intro header hheader
      simpa [IsHeader] using hbefore header hheader
    · cases h
  · rintro ⟨before, key, rest, hheaders, hname, hbefore, hvalue⟩
    have hfind : r.headers.find? (fun h => h.1.toList.map Char.toLower = name.toList) =
        some (key, value) := by
      rw [List.find?_eq_some_iff_append]
      refine ⟨by simpa [IsHeader] using hname, before, rest, hheaders, fun header hheader => ?_⟩
      simpa [IsHeader] using hbefore header hheader
    rw [hfind]
    exact if_pos (hshown.mpr hvalue)

theorem quota_eq_some_iff {n : UInt64} : r.quota = some n ↔ r.StatesQuota n.toNat := by
  have hread (value : String) : (Word.read64 (Text.trim value)).toOption = some n ↔
      n.toNat < 2 ^ 64 ∧ Text.HoldsNumber value n.toNat := by
    rw [and_iff_right n.toNat_lt, ← Word.read64_trim_eq_ok_iff]
    rcases Word.read64 (Text.trim value) with fault | k <;> simp [Except.toOption]
  unfold quota number? StatesQuota
  rw [Option.bind_eq_some_iff]
  simp only [hread, header?_eq_some_iff]
  grind

end HttpResponse

namespace Exchange

variable {exchange : Exchange}

/-- The quota that has come back, if any. -/
def quota? : Exchange → Option UInt64
  | .answered r => r.quota
  | _ => none

theorem quota?_eq_some_iff {n : UInt64} :
    exchange.quota? = some n ↔ exchange.StatesQuota n.toNat := by
  cases exchange with
  | answered r => exact HttpResponse.quota_eq_some_iff
  | _ => exact iff_of_false nofun id

theorem StatesQuota.exists_word {n : ℕ} (h : exchange.StatesQuota n) :
    ∃ m : UInt64, m.toNat = n := by
  cases exchange with
  | answered r =>
    obtain ⟨_, _, _, _, _, _, _, _, hfits, _⟩ := h
    exact ⟨UInt64.ofNat n, UInt64.toNat_ofNat_of_lt' hfits⟩
  | _ => cases h

theorem quota?_eq_none_iff : exchange.quota? = none ↔ ¬ ∃ n, exchange.StatesQuota n := by
  rw [Option.eq_none_iff_forall_ne_some, not_exists]
  constructor
  · intro h n hstates
    obtain ⟨m, rfl⟩ := hstates.exists_word
    exact h m (quota?_eq_some_iff.mpr hstates)
  · intro h n hquota
    exact h n.toNat (quota?_eq_some_iff.mp hquota)

end Exchange

/-- What comes back last states the quota, or leaves the one that was stated before. -/
theorem lastStated_append_iff {received : List Exchange} {exchange : Exchange} {n : ℕ} :
    LastStated n (received ++ [exchange]) ↔ exchange.StatesQuota n ∨
      (¬ ∃ m, exchange.StatesQuota m) ∧ LastStated n received := by
  constructor
  · rintro ⟨before, found, rest, hreceived, hstates, hrest⟩
    rcases List.eq_nil_or_concat' rest with rfl | ⟨rest, last, rfl⟩
    · obtain ⟨-, hlast⟩ := List.append_inj' hreceived rfl
      cases hlast
      exact .inl hstates
    · rw [← List.cons_append, ← List.append_assoc] at hreceived
      obtain ⟨rfl, hlast⟩ := List.append_inj' hreceived rfl
      cases hlast
      refine .inr ⟨hrest _ (List.mem_append_right _ List.mem_cons_self), before, found, rest, rfl,
        hstates, fun later hlater => hrest later (List.mem_append_left _ hlater)⟩
  · rintro (hstates | ⟨hsilent, before, found, rest, rfl, hstates, hrest⟩)
    · exact ⟨received, exchange, [], rfl, hstates, nofun⟩
    · refine ⟨before, found, rest ++ [exchange], by simp, hstates, ?_⟩
      rw [List.forall_mem_append, List.forall_mem_singleton]
      exact ⟨hrest, hsilent⟩

theorem LastStated.exists_word {received : List Exchange} {n : ℕ} (h : LastStated n received) :
    ∃ m : UInt64, m.toNat = n := by
  obtain ⟨-, exchange, -, -, hstates, -⟩ := h
  exact hstates.exists_word

theorem exists_lastStated_iff {received : List Exchange} :
    (∃ n, LastStated n received) ↔ ∃ exchange ∈ received, ∃ n, exchange.StatesQuota n := by
  constructor
  · rintro ⟨n, before, exchange, rest, rfl, hstates, -⟩
    exact ⟨exchange, List.mem_append_right _ List.mem_cons_self, n, hstates⟩
  · rintro ⟨exchange, hmem, hstates⟩
    induction received using List.reverseRecOn with
    | nil => cases hmem
    | append_singleton received last ih =>
      simp only [lastStated_append_iff]
      by_cases hlast : ∃ m, last.StatesQuota m
      · exact hlast.imp fun m hm => .inl hm
      · rcases List.mem_append.mp hmem with hmem | hmem
        · exact (ih hmem).imp fun m hm => .inr ⟨hlast, hm⟩
        · exact absurd (List.mem_singleton.mp hmem ▸ hstates) hlast

namespace HttpLedger

variable {C : Type} {h : HttpLedger (RecordedConnection C)}

/-- A ledger with a record of the ends of its exchanges. -/
def recorded (h : HttpLedger C) : HttpLedger (RecordedConnection C) :=
  ⟨h.base, h.token, h.quota, ⟨h.connection, []⟩⟩

/-- A ledger without its record. -/
def plain (h : HttpLedger (RecordedConnection C)) : HttpLedger C :=
  ⟨h.base, h.token, h.quota, h.connection.connection⟩

/-- The stored quota is the one that was stated last. -/
def Tracks (h : HttpLedger (RecordedConnection C)) : Prop :=
  ∀ n : UInt64, h.quota = some n ↔ LastStated n.toNat h.connection.received

theorem remaining_eq_some_iff {h : HttpLedger C} {n : ℕ} :
    h.remaining = some n ↔ ∃ m, h.quota = some m ∧ m ≠ unknownQuota ∧ m.toNat = n := by
  unfold remaining
  split <;> grind

theorem remaining_eq_none_iff {h : HttpLedger C} :
    h.remaining = none ↔ h.quota = none ∨ h.quota = some unknownQuota := by
  unfold remaining
  split <;> grind

theorem Tracks.quota_eq_none_iff (htracks : h.Tracks) :
    h.quota = none ↔ ¬ ∃ exchange ∈ h.connection.received, ∃ n, exchange.StatesQuota n := by
  rw [← exists_lastStated_iff, Option.eq_none_iff_forall_ne_some, not_exists]
  constructor
  · intro hnone n hlast
    obtain ⟨m, rfl⟩ := hlast.exists_word
    exact hnone m ((htracks m).mpr hlast)
  · intro hnone m hquota
    exact hnone m.toNat ((htracks m).mp hquota)

theorem Tracks.remaining_eq_some_iff (htracks : h.Tracks) {n : ℕ} :
    h.plain.remaining = some n ↔ LastStated n h.connection.received ∧ n ≠ 2 ^ 64 - 1 := by
  have hunknown (m : UInt64) : m ≠ unknownQuota ↔ m.toNat ≠ 2 ^ 64 - 1 :=
    not_congr (UInt64.toNat_inj (b := unknownQuota)).symm
  rw [HttpLedger.remaining_eq_some_iff]
  constructor
  · rintro ⟨m, hquota, hm, rfl⟩
    exact ⟨(htracks m).mp hquota, (hunknown m).mp hm⟩
  · rintro ⟨hlast, hn⟩
    obtain ⟨m, rfl⟩ := hlast.exists_word
    exact ⟨m, (htracks m).mpr hlast, (hunknown m).mpr hn, rfl⟩

theorem Tracks.remaining_eq_none_iff (htracks : h.Tracks) :
    h.plain.remaining = none ↔
      (¬ ∃ exchange ∈ h.connection.received, ∃ n, exchange.StatesQuota n) ∨
        LastStated (2 ^ 64 - 1) h.connection.received := by
  rw [HttpLedger.remaining_eq_none_iff]
  exact or_congr htracks.quota_eq_none_iff (htracks unknownQuota)

variable [Connection C]

def received (h : HttpLedger C) (qs : List Request) : List Exchange :=
  (behind h.recorded qs).connection.received

/-- What an exchange that ends does to a ledger. -/
def exchanged (h : HttpLedger (RecordedConnection C)) (exchange : Exchange) (connection : C) :
    HttpLedger (RecordedConnection C) :=
  ⟨h.base, h.token, exchange.quota?.or h.quota, connection, h.connection.received ++ [exchange]⟩

theorem send_of_ok {h : HttpLedger (RecordedConnection C)} {q : Request} {sent : HttpRequest}
    (hsent : h.request q = .ok sent) :
    (h.send q).2 = h.exchanged (Connection.exchange h.connection.connection sent).1
      (Connection.exchange h.connection.connection sent).2 := by
  unfold send
  rw [hsent]
  dsimp only
  rw [RecordedConnection.exchange_eq h.connection]
  rcases Connection.exchange h.connection.connection sent with ⟨exchange, connection⟩
  cases exchange <;> rfl

theorem send_cases (h : HttpLedger (RecordedConnection C)) (q : Request) :
    (h.send q).2 = h ∨ ∃ exchange connection, (h.send q).2 = h.exchanged exchange connection := by
  rcases hsent : h.request q with fault | sent
  · left
    unfold send
    rw [hsent]
  · exact .inr ⟨_, _, send_of_ok hsent⟩

/-- All that a request can do: nothing, or one exchange, whose end is recorded and replaces the
quota by the one that it states. -/
theorem react_cases (h : HttpLedger (RecordedConnection C)) (q : Request) :
    (react h q).2 = h ∨
      ∃ exchange connection, (react h q).2 = h.exchanged exchange connection := by
  unfold HttpLedger.react
  split
  · exact .inl rfl
  · exact .inl rfl
  · exact h.send_cases q

theorem react_eq_send (h : HttpLedger (RecordedConnection C)) {q : Request}
    (hinfo : q ≠ .delegateInfo []) (hhistories : q ≠ .histories []) : react h q = h.send q := by
  unfold HttpLedger.react
  split
  · exact absurd rfl hinfo
  · exact absurd rfl hhistories
  · rfl

omit [Connection C] in
/-- What is sent for a request depends on the address of the service and on the token only. -/
theorem request_congr {C' : Type} {h : HttpLedger C} {h' : HttpLedger C'} (hbase : h'.base = h.base)
    (htoken : h'.token = h.token) (q : Request) : h'.request q = h.request q := by
  unfold request
  rw [hbase, htoken]

theorem behind_request (h : HttpLedger (RecordedConnection C)) (qs : List Request) (q : Request) :
    (behind h qs).request q = h.request q := by
  induction qs generalizing h with
  | nil => rfl
  | cons first rest ih =>
    refine (ih (react h first).2).trans ?_
    rcases react_cases h first with hsame | ⟨exchange, connection, hreact⟩
    · rw [hsame]
    · rw [hreact]
      exact request_congr rfl rfl q

theorem Tracks.react (htracks : h.Tracks) (q : Request) : (react h q).2.Tracks := by
  rcases react_cases h q with hsame | ⟨exchange, connection, hreact⟩
  · rwa [hsame]
  · rw [hreact]
    intro n
    change exchange.quota?.or h.quota = some n ↔ LastStated n.toNat (_ ++ [exchange])
    rw [lastStated_append_iff, ← Exchange.quota?_eq_some_iff, ← Exchange.quota?_eq_none_iff,
      ← htracks n]
    exact Option.or_eq_some_iff

theorem Tracks.behind (htracks : h.Tracks) (qs : List Request) : (behind h qs).Tracks := by
  induction qs generalizing h with
  | nil => exact htracks
  | cons q qs ih => exact ih (htracks.react q)

theorem send_plain (h : HttpLedger (RecordedConnection C)) (q : Request) :
    (h.plain.send q).2 = (h.send q).2.plain := by
  have hrequest : h.plain.request q = h.request q := rfl
  have hconnection : h.plain.connection = h.connection.connection := rfl
  unfold send
  rw [hrequest]
  rcases h.request q with fault | sent
  · rfl
  · dsimp only
    rw [RecordedConnection.exchange_eq h.connection, hconnection]
    rcases Connection.exchange h.connection.connection sent with ⟨exchange, connection⟩
    cases exchange <;> rfl

theorem react_plain (h : HttpLedger (RecordedConnection C)) (q : Request) :
    (react h.plain q).2 = (react h q).2.plain := by
  unfold HttpLedger.react
  split
  · rfl
  · rfl
  · exact h.send_plain q

theorem behind_plain (h : HttpLedger (RecordedConnection C)) (qs : List Request) :
    behind h.plain qs = (behind h qs).plain := by
  induction qs generalizing h with
  | nil => rfl
  | cons q qs ih =>
    change behind (react h.plain q).2 qs = (behind (react h q).2 qs).plain
    rw [react_plain, ih]

theorem react_remaining (h : HttpLedger (RecordedConnection C)) (q : Request) :
    (react h q).2.connection.received = h.connection.received ∧
        (react h q).2.plain.remaining = h.plain.remaining ∨
      ∃ exchange, (react h q).2.connection.received = h.connection.received ++ [exchange] ∧
        ((∃ n, exchange.StatesQuota n) ∨
          (react h q).2.plain.remaining = h.plain.remaining) := by
  rcases react_cases h q with hsame | ⟨exchange, connection, hreact⟩
  · rw [hsame]
    exact .inl ⟨rfl, rfl⟩
  · rw [hreact]
    refine .inr ⟨exchange, rfl, ?_⟩
    rw [or_iff_not_imp_left, ← Exchange.quota?_eq_none_iff]
    intro hsilent
    simp only [exchanged, plain, hsilent, Option.none_or]
    rfl

/-- Whatever requests are made and however their exchanges end, the remaining quota is the number in
the last response that states one, whatever its status and its body, unless that is the greatest of
64 bits, which stands for none. A request has one exchange at most; with none, or with one that
states no quota, the remaining quota stays. Requests for nothing have none, and any other one that
can be sent has the next exchange of the connection. -/
theorem quota_tracks_responses (base : String) (token : Option String) (c : C)
    (qs : List Request) :
    let h : HttpLedger C := ⟨base, token, none, c⟩
    let quota (qs : List Request) := LedgerService.quota (behind h qs)
    let received := h.received
    (∀ n, quota qs = some n ↔ LastStated n (received qs) ∧ n ≠ 2 ^ 64 - 1) ∧
      (quota qs = none ↔ (¬ ∃ exchange ∈ received qs, ∃ n, exchange.StatesQuota n) ∨
        LastStated (2 ^ 64 - 1) (received qs)) ∧
      (∀ q, (received (qs ++ [q]) = received qs ∧ quota (qs ++ [q]) = quota qs) ∨
        ∃ exchange, received (qs ++ [q]) = received qs ++ [exchange] ∧
          ((∃ n, exchange.StatesQuota n) ∨ quota (qs ++ [q]) = quota qs)) ∧
      (∀ q, q = .delegateInfo [] ∨ q = .histories [] →
        received (qs ++ [q]) = received qs ∧ quota (qs ++ [q]) = quota qs) ∧
      ∀ q sent, q ≠ .delegateInfo [] → q ≠ .histories [] → h.request q = .ok sent →
        received (qs ++ [q]) =
          received qs ++ [(Connection.exchange (behind h qs).connection sent).1] := by
  intro h quota received
  have hquota (qs : List Request) : quota qs = (behind h.recorded qs).plain.remaining :=
    congrArg remaining (behind_plain h.recorded qs)
  have hstart : h.recorded.Tracks := by
    intro n
    apply iff_of_false nofun
    rintro ⟨before, exchange, rest, hnil, -⟩
    exact List.append_ne_nil_of_right_ne_nil before (List.cons_ne_nil exchange rest) hnil.symm
  have htracks := hstart.behind qs
  have hstep (q : Request) : behind h.recorded (qs ++ [q]) = (react (behind h.recorded qs) q).2 :=
    LedgerService.behind_append _ _ _
  have hreceived (q : Request) :
      received (qs ++ [q]) = (react (behind h.recorded qs) q).2.connection.received :=
    congrArg (fun h => h.connection.received) (hstep q)
  refine ⟨fun n => ?_, ?_, fun q => ?_, fun q hq => ?_, fun q sent hinfo hhistories hsent => ?_⟩
  · rw [hquota]
    exact htracks.remaining_eq_some_iff
  · rw [hquota]
    exact htracks.remaining_eq_none_iff
  · rw [hquota, hquota, hreceived, hstep]
    exact react_remaining _ q
  · rw [hquota, hquota, hreceived, hstep]
    rcases hq with rfl | rfl <;> exact ⟨rfl, rfl⟩
  · have hsendable : (behind h.recorded qs).request q = .ok sent :=
      (behind_request h.recorded qs q).trans hsent
    have hplain : behind h qs = (behind h.recorded qs).plain := behind_plain h.recorded qs
    rw [hreceived, react_eq_send _ hinfo hhistories, send_of_ok hsendable, hplain]
    rfl

-- A name instead of the address would be looked up in the tables of host names.
example :
    let limited : HttpResponse := ⟨429, [("X-RateLimit-Remaining", " 17 ")], ""⟩
    let h : HttpLedger ScriptedConnection :=
      ⟨"http://[::1]", none, none, [.answered limited, .timedOut], []⟩
    let qs : List Request := [.tip, .delegateInfo [], .tip]
    h.received qs = [.answered limited, .timedOut] ∧
      LedgerService.quota (behind h qs) = some 17 := by decide +kernel

end HttpLedger

end GovernanceIndex
