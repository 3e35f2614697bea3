import GovernanceIndex.Proofs.Run.Contract
import GovernanceIndex.Sync.Inventory
import GovernanceIndex.Sync.Lookup

/-!
Actions under a regime. A regime says which requests may be sent and how they are answered, what
holds of the world meanwhile, and which halts may occur. Whatever is put together from requests,
reads of the store and waits runs under every regime that permits its requests.
-/
namespace GovernanceIndex

/-- What an action may do. The rules say that requests that are permitted, reads of the store and
the passing of time keep what holds of the world, and lead to no halt but those that may occur. -/
structure Regime (L : Type) [LedgerService L] where
  permits : Request → Prop
  answers : (q : Request) → q.Answer → Prop
  holds : World L → Prop
  halts : Halt → Prop
  ask : ∀ w q, permits q → holds w → holds (w.ask q).2 ∧
    match (w.ask q).1 with
    | .ok a => answers q a
    | .error cause => halts (.failed (.ledger cause))
  read : ∀ w c, c.isWrite = false → holds w → holds (w.call c).2 ∧
    ∀ cause, (w.call c).1 = .error cause → halts (.failed (.store cause))
  renew : ∀ w job lease, holds w →
    holds (w.call (.renewLease job w.worker.id w.now lease)).2
  tick : ∀ w clock heartbeats, holds w → holds { w with clock, heartbeats }
  late : ∀ w, holds w → w.deadline.isSome → halts .timeUp
  tip : ∀ w e, holds w → w.cache.tip = some e → ∃ a, answers .tip a ∧ a.epoch = e
  remember : ∀ w a, answers .tip a → holds w →
    holds { w with cache := { w.cache with tip := some a.epoch } }

/-- A turn that ends comes to a proper result. -/
def Turn.Ends {σ ρ : Type} (U : ρ → Prop) : Turn σ ρ → Prop
  | .done result => U result
  | .goOn _ _ => True

namespace Regime

variable {L α β : Type} [LedgerService L] {r : Regime L} {m : Run L α} {V V' : α → Prop}

/-- An action keeps what holds under a regime, returns proper values, and comes to no halt but those
that may occur. -/
def Runs (r : Regime L) (m : Run L α) (V : α → Prop) : Prop :=
  ∀ w, r.holds w → r.holds (m w).2 ∧
    match (m w).1 with
    | .ok a => V a
    | .error halt => r.halts halt

namespace Runs

theorem post (h : r.Runs m V) (hV : ∀ a, V a → V' a) : r.Runs m V' := by
  intro w hw
  obtain ⟨hholds, hends⟩ := h w hw
  refine ⟨hholds, ?_⟩
  rcases hr : (m w).1 with halt | a <;> rw [hr] at hends
  · exact hends
  · exact hV a hends

theorem pure {a : α} (h : V a) : r.Runs (pure a : Run L α) V := fun _ hw => ⟨hw, h⟩

theorem throw {halt : Halt} (h : r.halts halt) : r.Runs (throw halt : Run L α) V :=
  fun _ hw => ⟨hw, h⟩

theorem bind {U : β → Prop} {f : α → Run L β} (hm : r.Runs m V) (hf : ∀ a, V a → r.Runs (f a) U) :
    r.Runs (m >>= f) U := by
  intro w hw
  obtain ⟨hholds, hends⟩ := hm w hw
  rw [Run.bind_apply]
  rcases hr : m w with ⟨halt | a, w'⟩ <;> rw [hr] at hholds hends
  · exact ⟨hholds, hends⟩
  · exact hf a hends w' hholds

theorem attempt (h : r.Runs m V) : r.Runs (Run.attempt m) fun _ => True := by
  intro w hw
  obtain ⟨hholds, hends⟩ := h w hw
  rw [Run.attempt_apply]
  rcases hr : m w with ⟨(_ | _ | _) | a, w'⟩ <;> rw [hr] at hholds hends
  · exact ⟨hholds, trivial⟩
  · exact ⟨hholds, hends⟩
  · exact ⟨hholds, hends⟩
  · exact ⟨hholds, trivial⟩

theorem ensures {P E : Store → Prop} {Q : α → Store → Prop} (h : r.Runs m V)
    (hm : Run.Ensures P m Q E) :
    Run.Triple (fun w => r.holds w ∧ P w.store) m
      (fun a w => (V a ∧ Q a w.store) ∧ r.holds w) fun w => E w.store := by
  rintro w ⟨hholds, hw⟩
  obtain ⟨hkept, hends⟩ := h w hholds
  have hstore := hm w hw
  rcases hr : m w with ⟨halt | a, w'⟩ <;> rw [hr] at hkept hends hstore
  · exact hstore
  · exact ⟨⟨hends, hstore⟩, hkept⟩

theorem getBind {f : World L → Run L α} (h : ∀ w, r.holds w → r.Runs (f w) V) :
    r.Runs (get >>= f) V := by
  intro w hw
  rw [Run.get_bind_apply]
  exact h w hw w hw

theorem modify {f : World L → World L} (h : ∀ w, r.holds w → r.holds (f w)) :
    r.Runs (modify f : Run L Unit) fun _ => True := fun w hw => ⟨h w hw, trivial⟩

theorem mapM {f : α → Run L β} (hf : ∀ a, r.Runs (f a) fun _ => True) (xs : List α) :
    r.Runs (xs.mapM f) fun _ => True := by
  induction xs with
  | nil => exact pure trivial
  | cons x xs ih =>
    rw [List.mapM_cons]
    exact bind (hf x) fun _ _ => bind ih fun _ _ => pure trivial

end Runs

theorem call {c : StoreCall} {V : c.Result → Prop}
    (h : ∀ w, r.holds w → r.holds (w.call c).2 ∧
      match (w.call c).1 with
      | .ok a => V a
      | .error cause => r.halts (.failed (.store cause))) :
    r.Runs (Run.call c : Run L c.Result) V := by
  intro w hw
  obtain ⟨hholds, hends⟩ := h w hw
  rw [Run.call_eq]
  rcases hr : w.call c with ⟨cause | a, w'⟩ <;> rw [hr] at hholds hends <;> exact ⟨hholds, hends⟩

theorem readCall (r : Regime L) {c : StoreCall} (hc : c.isWrite = false) :
    r.Runs (Run.call c : Run L c.Result) fun _ => True := by
  apply call
  intro w hw
  obtain ⟨hholds, hfails⟩ := r.read w c hc hw
  refine ⟨hholds, ?_⟩
  rcases hr : (w.call c).1 with cause | a
  · exact hfails cause hr
  · trivial

theorem advance (r : Regime L) {w : World L} (hw : r.holds w) (time : Nat) :
    r.holds (w.advance time) := by
  have hbeats : r.holds ((w.beats time).foldl World.beat w) :=
    List.foldlRecOn _ _ hw fun v hv h _ => r.renew v h.job h.lease hv
  exact r.tick _ _ _ hbeats

theorem waitUntil (r : Regime L) (time : Nat) :
    r.Runs (Run.waitUntil time : Run L Unit) fun _ => True := by
  intro w hw
  unfold Run.waitUntil
  rw [Run.get_bind_apply]
  rcases hdeadline : w.deadline with _ | deadline
  · exact ⟨r.advance hw time, trivial⟩
  · dsimp only
    split
    · exact ⟨r.advance hw time, trivial⟩
    · exact ⟨r.advance hw deadline, r.late w hw (by rw [hdeadline]; rfl)⟩

theorem wait (r : Regime L) (d : Duration) : r.Runs (Run.wait d : Run L Unit) fun _ => True :=
  Runs.getBind fun _ _ => r.waitUntil _

variable {q : Request} {l : Listing}

/-- A reply is an answer that is expected, or a refusal that may halt an action. -/
def Replies (r : Regime L) (q : Request) : q.Reply → Prop
  | .ok a => r.answers q a
  | .error cause => r.halts (.failed (.ledger cause))

theorem askOne (r : Regime L) (hq : r.permits q) : r.Runs (Run.ask q) (r.Replies q) := by
  intro w hw
  obtain ⟨hholds, hends⟩ := r.ask w q hq hw
  refine ⟨hholds, ?_⟩
  change r.Replies q (w.ask q).1
  rcases hr : (w.ask q).1 with cause | a <;> rw [hr] at hends <;> exact hends

theorem retryFrom (r : Regime L) (hq : r.permits q) (p : RetryPolicy) (left attempt : Nat) :
    r.Runs (Run.retryFrom p q left attempt) (r.Replies q) := by
  induction left generalizing attempt with
  | zero => exact r.askOne hq
  | succ left ih =>
    apply Runs.bind (r.askOne hq)
    intro reply hreply
    split
    · exact Runs.bind (r.wait _) fun _ _ => ih _
    · exact Runs.pure hreply

theorem request (r : Regime L) (hq : r.permits q) (c : Settings) :
    r.Runs (Run.request c q) (r.answers q) := by
  apply Runs.bind (r.retryFrom hq _ _ _)
  intro reply hreply
  rcases reply with cause | a
  · exact Runs.throw hreply
  · exact Runs.pure hreply

/-- A listing failed for a reason that may halt an action, if it failed. -/
def Lists (r : Regime L) {α : Type} : Except LedgerError α → Prop
  | .ok _ => True
  | .error cause => r.halts (.failed (.ledger cause))

theorem pageTurn (r : Regime L) (hl : ∀ p, r.permits (.page l p)) (x : PageRead l) :
    r.Runs x.turn (Turn.Ends r.Lists) := by
  apply Runs.bind (r.askOne (hl x.page))
  intro reply hreply
  apply Runs.pure
  unfold PageRead.receive
  split
  · trivial
  · rcases reply with cause | batch
    · exact hreply
    · dsimp only
      split
      · trivial
      · split <;> trivial

theorem pageGo (r : Regime L) (hl : ∀ p, r.permits (.page l p)) (turns : Nat) (x : PageRead l) :
    r.Runs (PageRead.go turns x) r.Lists := by
  induction turns generalizing x with
  | zero => exact Runs.pure trivial
  | succ turns ih =>
    apply Runs.bind (r.pageTurn hl x)
    intro t ht
    rcases t with result | ⟨x, delay⟩
    · exact Runs.pure ht
    · exact Runs.getBind fun _ _ => Runs.bind (r.waitUntil _) fun _ _ => ih x

theorem listing (r : Regime L) (hl : ∀ p, r.permits (.page l p)) (c : Settings) :
    r.Runs (Run.listing c l) fun _ => True := by
  apply Runs.bind (r.pageGo hl _ _)
  intro reply hreply
  rcases reply with cause | rows
  · exact Runs.throw hreply
  · exact Runs.pure trivial

section

variable {σ ρ : Type} {turn : σ → Run L (Turn σ ρ)} {U : ρ → Prop}
  (hturn : ∀ x, r.Runs (turn x) (Turn.Ends U))
include hturn

theorem fanOutGo (turns : Nat) (f : FanOut σ ρ) (hf : ∀ x ∈ f.finished, U x.2) :
    r.Runs (f.go turn turns) fun f' => ∀ x ∈ f'.finished, U x.2 := by
  induction turns generalizing f with
  | zero => exact Runs.pure hf
  | succ turns ih =>
    apply Runs.bind (V := fun next => ∀ f' ∈ next, ∀ x ∈ f'.finished, U x.2)
    · apply Runs.getBind
      intro w _
      dsimp only
      split
      · exact Runs.pure fun _ h => by cases h
      · apply Runs.bind (r.waitUntil _)
        intro _ _
        apply Runs.bind (hturn _)
        intro t ht
        apply Runs.getBind
        intro w' _
        apply Runs.pure
        rintro f' ⟨⟩ x hx
        rcases t with result | ⟨work, _ | delay⟩
        · rcases List.mem_append.mp hx with hx | hx
          · exact hf x hx
          · rw [List.mem_singleton.mp hx]
            exact ht
        · exact hf x hx
        · exact hf x hx
    · intro next hnext
      rcases next with _ | f'
      · exact Runs.pure hf
      · exact ih f' (hnext f' rfl)

theorem fanOut (limit : Nat) (rank : σ → Nat) (items : List σ) :
    r.Runs (FanOut.run limit rank turn items) fun f => ∀ x ∈ f.finished, U x.2 :=
  fanOutGo hturn _ _ fun _ h => by cases h

end

theorem lookup (r : Regime L) (c : Settings) (limit : Nat) (epoch : Option Epoch)
    (ids : List DelegateId) (hl : ∀ d p, r.permits (.page (.delegators d epoch) p)) :
    r.Runs (Lookup.run c limit epoch ids) fun found => ∀ x ∈ found, r.Lists x.reply := by
  have hturn (x : Lookup epoch) :
      r.Runs x.turn (Turn.Ends fun found => r.Lists found.reply) := by
    apply Runs.bind (r.pageTurn (hl x.delegate) x.read)
    intro t ht
    rcases t with reply | ⟨read, delay⟩
    · exact Runs.pure ht
    · exact Runs.pure trivial
  apply Runs.bind (fanOut hturn limit _ _)
  intro f hf
  apply Runs.pure
  intro x hx
  obtain ⟨y, hy, rfl⟩ := List.mem_map.mp hx
  exact hf y hy

section

variable (r : Regime L) (c : Settings) (epoch : Epoch)
  (hlisted : ∀ p, r.permits (.page .delegates p)) (hinfos : ∀ ids, r.permits (.delegateInfo ids))
  (hpowers : ∀ p, r.permits (.page (.delegatePower epoch) p))
include hlisted hinfos hpowers

theorem fetchDelegates : r.Runs (Run.fetchDelegates c epoch) fun _ => True := by
  apply Runs.bind (r.listing hlisted c)
  intro listed _
  apply Runs.bind (V := fun _ => True)
  · apply Runs.bind (Runs.mapM (fun batch => (r.request (hinfos batch) c).post fun _ _ => trivial) _)
    exact fun _ _ => Runs.pure trivial
  · intro infos _
    exact Runs.bind (r.listing hpowers c) fun _ _ => Runs.pure trivial

theorem fetchInventory : r.Runs (Run.fetchInventory c epoch) fun _ => True :=
  Runs.bind (r.fetchDelegates c epoch hlisted hinfos hpowers) fun _ _ => Runs.pure trivial

end

theorem knownTip (r : Regime L) (hq : r.permits .tip) (c : Settings) :
    r.Runs (Run.knownTip c) fun e => ∃ a, r.answers .tip a ∧ a.epoch = e := by
  unfold Run.knownTip
  apply Runs.getBind
  intro w hw
  split
  · next e htip => exact Runs.pure (r.tip w e hw htip)
  · have htip : r.Runs (Run.tip c) fun e => ∃ a, r.answers .tip a ∧ a.epoch = e :=
      Runs.bind (r.request hq c) fun a ha => Runs.pure ⟨a, ha, rfl⟩
    apply Runs.bind htip
    rintro _ ⟨a, ha, rfl⟩
    apply Runs.bind (Runs.modify fun w hw => r.remember w a ha hw)
    exact fun _ _ => Runs.pure ⟨a, ha, rfl⟩

/-- An inventory is fetched only where none is remembered and none is stored. -/
theorem inventory (r : Regime L) (c : Settings) (epoch : Epoch)
    (hremember : ∀ w rows, r.holds w → r.holds { w with
      cache := { w.cache with inventories := w.cache.inventories.insert epoch rows } })
    (hfetch : ∀ w, r.holds w → w.cache.inventories.get? epoch = none →
      w.store.snapshotsOf epoch = [] → r.Runs (Run.fetchInventory c epoch) fun _ => True) :
    r.Runs (Run.inventory c epoch) fun _ => True := by
  have hend (rows : List DelegateSnapshot) :
      r.Runs (do
        Run.rememberInventory epoch rows
        return rows) fun _ => True :=
    Runs.bind (Runs.modify fun w hw => hremember w rows hw) fun _ _ => Runs.pure trivial
  intro w hw
  unfold Run.inventory
  rw [Run.get_bind_apply]
  rcases hcache : w.cache.inventories.get? epoch with _ | rows
  · obtain ⟨hholds, hfails⟩ := r.read w (.snapshots epoch) rfl hw
    dsimp only
    rw [Run.bind_apply, Run.call_eq]
    rcases w.call_cases (.snapshots epoch) with ⟨stored, w', hr, hp⟩ | ⟨cause, w', hr, -⟩ <;>
      rw [hr] at hholds hfails ⊢
    · obtain rfl : w.store.snapshotsOf epoch = stored := congrArg Prod.fst (Except.ok.inj hp)
      dsimp only
      split
      · next hempty =>
        have hfetched := hfetch w hw hcache (List.isEmpty_iff.mp hempty)
        exact Runs.bind hfetched (fun rows _ => hend rows) w' hholds
      · exact hend _ w' hholds
    · exact ⟨hholds, hfails cause rfl⟩
  · exact ⟨hw, trivial⟩

end Regime

end GovernanceIndex
