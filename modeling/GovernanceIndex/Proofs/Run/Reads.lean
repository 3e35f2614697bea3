import GovernanceIndex.Proofs.Run.Regime
import GovernanceIndex.Proofs.Store.Calls

/-!
Actions that read. Requests to the ledger service, the waits between them and the lookups that run
beside each other leave the data of the store as it is: only leases change while time passes, by the
renewals that fall due. The service comes to another state by the requests that it gets only, and
what is remembered of inventories changes only where one is read.
-/
namespace GovernanceIndex

def Store.data (s : Store) : Store := { s with locks := {} }

/-- Two stores differ in their leases at most. -/
def Store.SameData (s s' : Store) : Prop := s'.data = s.data

namespace Store.SameData

variable {s s' : Store}

instance : IsPreorder Store SameData where
  refl _ := rfl
  trans _ _ _ h h' := Eq.trans h' h

theorem eq {γ : Type} (h : SameData s s') (f : Store → γ)
    (hf : ∀ s : Store, f s.data = f s := by exact fun _ => rfl) : f s' = f s := by
  rw [← hf s', ← hf s, h]

end Store.SameData

theorem Store.renewLease_sameData {s s' : Store} {job : String} {holder : WorkerId}
    {now : Timestamp} {lease : Duration} {r : Bool}
    (h : s.renewLease job holder now lease = .ok (r, s')) : s.SameData s' := by
  unfold renewLease at h
  rcases hend : leaseEnd now lease with cause | ends
  · rw [hend] at h
    cases h
  · rw [hend] at h
    rcases hrow : s.locks.get? job with _ | row
    · simp only [hrow, bind, Except.bind, pure, Except.pure, Except.ok.injEq, Prod.mk.injEq] at h
      obtain ⟨-, rfl⟩ := h
      rfl
    · simp only [hrow, bind, Except.bind, pure, Except.pure] at h
      split at h <;> cases h <;> rfl

theorem Store.acquireLease_sameData {s s' : Store} {job : String} {holder : WorkerId}
    {now : Timestamp} {lease : Duration} {r : Bool}
    (h : s.acquireLease job holder now lease = .ok (r, s')) : s.SameData s' := by
  unfold acquireLease at h
  rcases hends : leaseEnd now lease with cause | ends <;> rw [hends] at h
  · cases h
  · simp only [bind, Except.bind, pure, Except.pure] at h
    generalize (s.locks.get? job).getD { job } = row at h
    rcases hrunning : row.isRunning <;> rcases hexpired : row.isExpired now <;>
      simp [hrunning, hexpired] at h <;> obtain ⟨-, rfl⟩ := h <;> rfl

theorem Store.releaseLease_sameData {s s' : Store} {job : String} {holder : WorkerId}
    {result : JobResult} {items : Option UInt64} {errorMessage : Option String} {r : Bool}
    (h : s.releaseLease job holder result items errorMessage = .ok (r, s')) : s.SameData s' := by
  unfold releaseLease at h
  rcases hrow : s.locks.get? job with _ | row <;> simp only [hrow] at h
  · cases h
  · split at h <;> cases h <;> rfl

theorem Store.perform_read {s s' : Store} {c : StoreCall} {r : c.Result}
    (hc : c.isWrite = false) (h : s.perform c = .ok (r, s')) : s' = s := by
  cases c <;> cases hc <;> simp only [perform, Except.ok.injEq, Prod.mk.injEq] at h <;>
    exact h.2.symm

/-- A service comes to a state by the requests that it gets. -/
def LedgerService.Reacts {L : Type} [LedgerService L] : L → L → Prop :=
  Relation.ReflTransGen fun l l' => ∃ q, (react l q).2 = l'

instance {L : Type} [LedgerService L] : IsPreorder L LedgerService.Reacts :=
  inferInstanceAs (IsPreorder L (Relation.ReflTransGen _))

namespace World

variable {L : Type} [LedgerService L]

/-- What reading may do to a world: the data of the store stays, its leases change by calls, and the
service by requests. -/
structure Reads (w w' : World L) : Prop where
  data : w.store.SameData w'.store
  calls : w.store.Reaches w'.store
  ledger : LedgerService.Reacts w.ledger w'.ledger

/-- What reading may do to a world while no inventory is remembered. -/
structure Passes (w w' : World L) : Prop extends Reads w w' where
  inventories : w'.cache.inventories = w.cache.inventories

/-- The service of a world comes to its state by requests. -/
def Requests (w w' : World L) : Prop := LedgerService.Reacts w.ledger w'.ledger

instance : IsPreorder (World L) Requests where
  refl w := refl_of LedgerService.Reacts w.ledger
  trans _ _ _ h h' := trans_of LedgerService.Reacts h h'

instance : IsPreorder (World L) Reads where
  refl w := ⟨refl_of _ w.store, refl_of _ w.store, refl_of _ w.ledger⟩
  trans _ _ _ h h' := ⟨trans_of _ h.data h'.data, trans_of _ h.calls h'.calls,
    trans_of _ h.ledger h'.ledger⟩

instance : IsPreorder (World L) Passes where
  refl w := ⟨refl_of Reads w, rfl⟩
  trans _ _ _ h h' := ⟨trans_of Reads h.toReads h'.toReads, h'.inventories.trans h.inventories⟩

omit [LedgerService L] in
theorem call_reaches (w : World L) (c : StoreCall) : w.store.Reaches (w.call c).2.store :=
  call_relates fun _ _ => .of_perform

omit [LedgerService L] in
theorem call_store {c : StoreCall} (hc : c.isWrite = false) (w : World L) :
    (w.call c).2.store = w.store :=
  (call_relates fun _ _ hp => (Store.perform_read hc hp).symm).symm

theorem call_passes (w : World L) (c : StoreCall) (hdata : w.store.SameData (w.call c).2.store) :
    w.Passes (w.call c).2 := by
  obtain ⟨hledger, hcache, -⟩ := w.call_frame c
  have hreacts : LedgerService.Reacts w.ledger (w.call c).2.ledger := by
    rw [hledger]
    exact refl_of _ w.ledger
  exact ⟨⟨hdata, w.call_reaches c, hreacts⟩, congrArg JobCache.inventories hcache⟩

theorem renew_passes (w : World L) (job : String) (lease : Duration) :
    w.Passes (w.call (.renewLease job w.worker.id w.now lease)).2 :=
  w.call_passes _ (call_relates fun _ _ => Store.renewLease_sameData)

theorem read_passes (w : World L) {c : StoreCall} (hc : c.isWrite = false) :
    w.Passes (w.call c).2 := by
  apply call_passes
  rw [call_store hc]
  exact refl_of Store.SameData w.store

theorem ask_passes (w : World L) (q : Request) : w.Passes (w.ask q).2 := by
  have hreacts : LedgerService.Reacts w.ledger (LedgerService.react w.ledger q).2 :=
    Relation.ReflTransGen.single ⟨q, rfl⟩
  exact ⟨⟨refl_of _ w.store, refl_of _ w.store, hreacts⟩, rfl⟩

end World

namespace Run

variable {L α β : Type} [LedgerService L]

/-- An action that comes to the ledger service with requests only. -/
abbrev Requests (m : Run L α) : Prop := Shifts World.Requests m

theorem Requests.call (c : StoreCall) : Requests (Run.call c : Run L c.Result) := by
  intro w
  obtain ⟨hledger, -⟩ := w.call_frame c
  rw [call_world]
  change LedgerService.Reacts w.ledger (w.call c).2.ledger
  rw [hledger]
  exact refl_of LedgerService.Reacts w.ledger

/-- An action that reads. -/
abbrev Reads (m : Run L α) : Prop := Shifts World.Reads m

/-- An action that reads and remembers no inventory. -/
abbrev Passes (m : Run L α) : Prop := Shifts World.Passes m

theorem Reads.moves {m : Run L α} {R : Store → Store → Prop} (h : Reads m)
    (hR : ∀ s s', Store.SameData s s' → R s s') : Moves R m := fun w => hR _ _ (h w).data

/-- What reads changes the store by calls only. -/
theorem Reads.reaches {m : Run L α} (h : Reads m) : Moves Store.Reaches m := fun w => (h w).calls

theorem Reads.requests {m : Run L α} (h : Reads m) : Requests m := fun w => (h w).ledger

theorem Reads.ensures {m : Run L α} {P : Store → Prop} (h : Reads m)
    (hP : ∀ s s', Store.SameData s s' → P s → P s') : Ensures P m (fun _ => P) P :=
  Moves.ensures (h.moves fun _ _ => id) hP

/-- Everything may be requested, and worlds are passed on as reading passes them on. -/
def passRegime (w₀ : World L) : Regime L where
  permits _ := True
  answers _ _ := True
  holds := w₀.Passes
  halts _ := True
  ask w q _ hw := ⟨trans_of World.Passes hw (w.ask_passes q), by split <;> trivial⟩
  read w _ hc hw := ⟨trans_of World.Passes hw (w.read_passes hc), fun _ _ => trivial⟩
  renew w job lease hw := trans_of World.Passes hw (w.renew_passes job lease)
  tick _ _ _ hw := ⟨⟨hw.data, hw.calls, hw.ledger⟩, hw.inventories⟩
  late _ _ _ := trivial
  tip _ e _ _ := ⟨⟨e, none, none⟩, trivial, rfl⟩
  remember _ _ _ hw := ⟨⟨hw.data, hw.calls, hw.ledger⟩, hw.inventories⟩

namespace Passes

theorem reads {m : Run L α} (h : Passes m) : Reads m := h.mono fun _ _ hw => hw.toReads

theorem of_runs {m : Run L α} {V : World L → α → Prop}
    (h : ∀ w₀, (passRegime w₀).Runs m (V w₀)) : Passes m :=
  fun w => (h w w (refl_of World.Passes w)).1

theorem call {c : StoreCall} (hc : c.isWrite = false) :
    Passes (Run.call c : Run L c.Result) := of_runs fun w => (passRegime w).readCall hc

theorem waitUntil (time : Nat) : Passes (Run.waitUntil time : Run L Unit) :=
  of_runs fun w => (passRegime w).waitUntil time

theorem wait (d : Duration) : Passes (Run.wait d : Run L Unit) :=
  of_runs fun w => (passRegime w).wait d

theorem ask (q : Request) : Passes (Run.ask q : Run L q.Reply) :=
  of_runs fun w => (passRegime w).askOne trivial

theorem request (c : Settings) (q : Request) : Passes (Run.request c q : Run L q.Answer) :=
  of_runs fun w => (passRegime w).request trivial c

theorem listing (c : Settings) (l : Listing) :
    Passes (Run.listing c l : Run L (List l.Row)) :=
  of_runs fun w => (passRegime w).listing (fun _ => trivial) c

theorem lookup (c : Settings) (limit : Nat) (epoch : Option Epoch) (ids : List DelegateId) :
    Passes (Lookup.run c limit epoch ids : Run L (List Found)) :=
  of_runs fun w => (passRegime w).lookup c limit epoch ids fun _ _ => trivial

theorem fetchDelegates (c : Settings) (epoch : Epoch) :
    Passes (Run.fetchDelegates c epoch : Run L FetchedDelegates) :=
  of_runs fun w => (passRegime w).fetchDelegates c epoch (fun _ => trivial) (fun _ => trivial)
    fun _ => trivial

theorem fetchInventory (c : Settings) (epoch : Epoch) :
    Passes (Run.fetchInventory c epoch : Run L (List DelegateSnapshot)) :=
  of_runs fun w => (passRegime w).fetchInventory c epoch (fun _ => trivial) (fun _ => trivial)
    fun _ => trivial

theorem knownTip (c : Settings) : Passes (Run.knownTip c : Run L Epoch) :=
  of_runs fun w => (passRegime w).knownTip trivial c

theorem latestCompleted (c : Settings) : Passes (Run.latestCompleted c : Run L Epoch) := by
  refine Shifts.bind (knownTip c) fun tip => ?_
  split
  · exact Shifts.pure _
  · exact Shifts.throw _

end Passes

namespace Reads

theorem rememberInventory (epoch : Epoch) (rows : List DelegateSnapshot) :
    Reads (Run.rememberInventory epoch rows : Run L Unit) :=
  Shifts.modify fun w => ⟨refl_of _ w.store, refl_of _ w.store, refl_of _ w.ledger⟩

theorem inventory (c : Settings) (epoch : Epoch) :
    Reads (Run.inventory c epoch : Run L (List DelegateSnapshot)) := by
  unfold Run.inventory
  refine Shifts.getBind fun w => ?_
  split
  · exact Shifts.pure _
  · refine Shifts.bind (Passes.call rfl).reads fun stored => ?_
    dsimp only
    split
    · exact Shifts.bind (Passes.fetchInventory c epoch).reads fun _ =>
        Shifts.bind (rememberInventory epoch _) fun _ => Shifts.pure _
    · exact Shifts.bind (Shifts.pure _) fun _ =>
        Shifts.bind (rememberInventory epoch _) fun _ => Shifts.pure _

end Reads

end Run

end GovernanceIndex
