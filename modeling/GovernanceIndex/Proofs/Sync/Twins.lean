import GovernanceIndex.Proofs.Run.FanOutPace
import GovernanceIndex.Proofs.Sync.Batching

/-!
Twin worlds. Two worlds are twins if their services reply to every request in the same fixed way,
their stores are alike, and what they remember is related. What each reads in such a world is the
same, in the same order where it is read at once, and what each writes keeps the stores alike. So
two syncs of epochs in twin worlds come to the same, also where they run at different times.
-/
namespace GovernanceIndex

open Store (Alike)
open World (Fixed)

namespace World

variable {L : Type} [LedgerService L] {w : World L} {f : Replies} {s : Store} {k : JobCache}

/-- Two worlds with the same fixed replies, whose stores are alike and whose memories are related.
-/
structure Twins (f : Replies) (K : JobCache → JobCache → Prop) (w w' : World L) : Prop where
  left : w.Fixed f w.store w.cache
  right : w'.Fixed f w'.store w'.cache
  alike : w.store.Alike w'.store
  caches : K w.cache w'.cache

theorem Twins.stay {K K' : JobCache → JobCache → Prop} {w' v v' : World L} {k k' : JobCache}
    (h : Twins f K w w') (hv : v.Fixed f w.store k) (hv' : v'.Fixed f w'.store k')
    (hcaches : K' k k') : Twins f K' v v' where
  left := hv.here
  right := hv'.here
  alike := trans_of Alike (trans_of Alike (Alike.of_sameData hv.data).symm h.alike)
    (.of_sameData hv'.data)
  caches := by
    rw [hv.cache, hv'.cache]
    exact hcaches

/-- Twin worlds in pace: the clock of one reads `d` when that of the other one reads `d'`. -/
structure TwinsInPace (f : Replies) (K : JobCache → JobCache → Prop) (d d' : Nat) (w w' : World L) :
    Prop where
  twins : Twins f K w w'
  pace : w.clock + d' = w'.clock + d

end World

open World (Twins TwinsInPace)

namespace Store.Alike

variable {s s' : Store}

theorem inventoryOver (h : s.Alike s') (f : Replies) (c : Settings) (k : JobCache) (epoch : Epoch) :
    f.inventoryOver c s' k epoch = f.inventoryOver c s k epoch := by
  unfold Replies.inventoryOver Store.snapshotsOf
  rw [h.snapshots]

theorem observed (h : s.Alike s') (f : Replies) (c : Settings) (k : JobCache) :
    f.observed c s' k = f.observed c s k := by
  unfold Replies.observed
  simp only [h.inventoryOver f c]

end Store.Alike

theorem World.Fixed.observed {L : Type} [LedgerService L] {f : Replies} {s : Store} {k : JobCache}
    {w : World L} (h : w.Fixed f s k) (c : Settings) :
    f.observed c w.store w.cache = f.observed c s k := by
  rw [h.cache, (Alike.of_sameData h.data).observed]

namespace Run

variable {L α : Type} [LedgerService L] {f : Replies} {K : JobCache → JobCache → Prop}
  {c : Settings} {epoch : Epoch}

/-- What comes to a reply, and is remembered, comes to it in both worlds, if the reply is fixed by
what both worlds have in common. -/
theorem Agree.of_ends {m : Run L α} {r : Store → JobCache → Except LedgerError α}
    {memo : JobCache → α → JobCache}
    (h : ∀ s k, Outcomes (Fixed f s k) m (fun a w => r s k = .ok a ∧ Fixed f s (memo k a) w)
      fun halt w => Replies.halting (r s k) = .error halt ∧ Fixed f s k w)
    (hr : ∀ s s' k k', s.Alike s' → K k k' → r s' k' = r s k)
    (hmemo : ∀ k k' a, K k k' → K (memo k a) (memo k' a)) : Agree (Twins f K) m m Eq := by
  intro w w' hw
  have hends := h w.store w.cache w hw.left
  have hends' := h w'.store w'.cache w' hw.right
  rw [hr _ _ _ _ hw.alike hw.caches] at hends'
  rcases hrun : m w with ⟨halt | a, v⟩ <;> rcases hrun' : m w' with ⟨halt' | a', v'⟩ <;>
    rw [hrun] at hends <;> rw [hrun'] at hends' <;> obtain ⟨he, hv⟩ := hends <;>
    obtain ⟨he', hv'⟩ := hends'
  · exact ⟨Except.error.inj (he'.symm.trans he), hw.stay hv hv' hw.caches⟩
  · rw [he'] at he
    cases he
  · rw [he] at he'
    cases he'
  · obtain rfl := Except.ok.inj (he.symm.trans he')
    exact ⟨rfl, hw.stay hv hv' (hmemo _ _ a hw.caches)⟩

theorem Agree.of_yields {m : Run L α} {r : Except LedgerError α}
    (h : ∀ s k, Yields (Fixed f s k) m r) : Agree (Twins f K) m m Eq :=
  Agree.of_ends h (fun _ _ _ _ _ _ => rfl) fun _ _ _ => id

section

variable {d d' : Nat}

theorem agreeWaitUntil {time time' : Nat} (h : time + d' = time' + d) :
    Agree (TwinsInPace f K d d') (waitUntil time : Run L Unit) (waitUntil time')
      fun _ _ => True := by
  rintro w w' ⟨hw, hpace⟩
  rw [waitUntil_apply hw.left.deadline, waitUntil_apply hw.right.deadline]
  refine ⟨trivial, hw.stay (hw.left.advance time) (hw.right.advance time') hw.caches, ?_⟩
  change max w.clock time + d' = max w'.clock time' + d
  omega

theorem agreeAsk (q : Request) :
    Agree (TwinsInPace f K d d') (ask q : Run L q.Reply) (ask q) Eq := by
  rintro w w' ⟨hw, hpace⟩
  obtain ⟨hreply, hasked⟩ := hw.left.ask q
  obtain ⟨hreply', hasked'⟩ := hw.right.ask q
  exact ⟨hreply.trans hreply'.symm, hw.stay hasked hasked' hw.caches, hpace⟩

theorem agreeTurn {epoch : Option Epoch} (x : Lookup epoch) :
    Agree (TwinsInPace f K d d') (x.turn : Run L (Turn (Lookup epoch) Found)) x.turn Eq := by
  have hread : Agree (TwinsInPace f K d d') (x.read.turn : Run L _) x.read.turn Eq := by
    apply Agree.bind (agreeAsk _)
    rintro reply _ rfl
    exact Agree.pure rfl
  apply Agree.bind hread
  rintro turn _ rfl
  rcases turn with reply | ⟨read, delay⟩ <;> exact Agree.pure rfl

end

/-- Lookups come to the same in both worlds, and end in the same order. -/
theorem agreeLookup (c : Settings) (limit : Nat) (epoch : Option Epoch) (ids : List DelegateId) :
    Agree (Twins f K) (Lookup.run c limit epoch ids : Run L (List Found))
      (Lookup.run c limit epoch ids) Eq := by
  intro w w' hw
  -- The clocks keep the distance that they have when the lookups start.
  have hrun : Agree (TwinsInPace f K w.clock w'.clock)
      (Lookup.run c limit epoch ids : Run L (List Found)) (Lookup.run c limit epoch ids) Eq := by
    apply Agree.bind (FanOut.run_inPace (fun _ _ h => h.pace) (fun _ _ => agreeWaitUntil) agreeTurn
      limit _ _)
    intro fanOut fanOut' h
    exact Agree.pure h.finished.symm
  obtain ⟨hends, hworlds⟩ := hrun w w' ⟨hw, Nat.add_comm _ _⟩
  exact ⟨hends, hworlds.twins⟩

theorem agreeCall {k k' : StoreCall} {effect : Store → k.Result × Store}
    {effect' : Store → k'.Result × Store} {Q : k.Result → k'.Result → Prop}
    (hk : ∀ s : Store, s.perform k = .ok (effect s))
    (hk' : ∀ s : Store, s.perform k' = .ok (effect' s))
    (h : ∀ s s' : Store, s.Alike s' →
      Q (effect s).1 (effect' s').1 ∧ (effect s).2.Alike (effect' s').2) :
    Agree (Twins f K) (call k : Run L k.Result) (call k') Q := by
  intro w w' hw
  obtain ⟨v, hr, hv, hstore⟩ := hw.left.faultless.call_apply hk
  obtain ⟨v', hr', hv', hstore'⟩ := hw.right.faultless.call_apply hk'
  obtain ⟨hresults, halike⟩ := h w.store w'.store hw.alike
  rw [hr, hr']
  refine ⟨hresults, ?_, ?_, ?_, ?_⟩
  · rw [hv]
    exact (hw.left.call k (refl_of Store.SameData _)).here
  · rw [hv']
    exact (hw.right.call k' (refl_of Store.SameData _)).here
  · dsimp only
    rw [hstore, hstore']
    exact halike
  · rw [hv, hv', (w.call_frame k).2.1, (w'.call_frame k').2.1]
    exact hw.caches

theorem agreeRead {k : StoreCall} {g : Store → k.Result} {Q : k.Result → k.Result → Prop}
    (hk : ∀ s : Store, s.perform k = .ok (g s, s))
    (h : ∀ s s' : Store, s.Alike s' → Q (g s) (g s')) :
    Agree (Twins f K) (call k : Run L k.Result) (call k) Q :=
  agreeCall hk hk fun s s' hs => ⟨h s s' hs, hs⟩

theorem agreeWrite {k k' : StoreCall} {effect : Store → k.Result × Store}
    {effect' : Store → k'.Result × Store} (hk : ∀ s : Store, s.perform k = .ok (effect s))
    (hk' : ∀ s : Store, s.perform k' = .ok (effect' s))
    (h : ∀ s s' : Store, s.Alike s' → (effect s).2.Alike (effect' s').2) :
    Agree (Twins f K) (call k : Run L k.Result) (call k') fun _ _ => True :=
  agreeCall hk hk' fun s s' hs => ⟨trivial, h s s' hs⟩

theorem agreeKnownTip (c : Settings) :
    Agree (Twins f Eq) (knownTip c : Run L Epoch) (knownTip c) Eq := by
  apply Agree.of_ends (r := fun _ k => f.knownTip k) fun s k => fixedKnownTip c
  · rintro s s' k _ _ rfl
    rfl
  · rintro k _ e rfl
    rfl

theorem agreeInventory (c : Settings) (epoch : Epoch) :
    Agree (Twins f Eq) (inventory c epoch : Run L (List DelegateSnapshot)) (inventory c epoch)
      Eq := by
  apply Agree.of_ends fun s k => fixedInventory c epoch
  · rintro s s' k _ hs rfl
    exact hs.inventoryOver f c k epoch
  · rintro k _ rows rfl
    rfl

theorem agreeRemember (epoch : Epoch) (rows : List DelegateSnapshot) :
    Agree (Twins f Eq) (rememberInventory epoch rows : Run L Unit) (rememberInventory epoch rows)
      Eq := by
  intro w w' hw
  obtain ⟨⟨hreplies, hquota, hfaultless, hdeadline, -, -⟩,
    ⟨hreplies', hquota', hfaultless', hdeadline', -, -⟩, halike, hcaches⟩ := hw
  refine ⟨rfl, ⟨hreplies, hquota, hfaultless, hdeadline, refl_of Store.SameData w.store, rfl⟩,
    ⟨hreplies', hquota', hfaultless', hdeadline', refl_of Store.SameData w'.store, rfl⟩, halike, ?_⟩
  exact congrArg (fun k : JobCache => { k with inventories := k.inventories.insert epoch rows })
    hcaches

theorem agreeStepWork (c : Settings) (epoch : Epoch) (step : EpochStep) :
    Agree (Twins f Eq) (stepWork c epoch step : Run L Nat) (stepWork c epoch step) Eq := by
  cases step with
  | dreps =>
    apply Agree.bind (Agree.of_yields fun s k => fixedFetchInventory c epoch)
    rintro rows _ rfl
    apply Agree.bind (agreeWrite (fun _ => rfl) (fun _ => rfl) fun s s' hs => hs.putSnapshots rows)
    intro _ _ _
    exact Agree.bind (agreeRemember epoch rows) fun _ _ _ => Agree.pure rfl
  | totals =>
    refine Agree.bind (Q := fun _ _ => True) ?_ fun _ _ _ => Agree.pure rfl
    apply Agree.bind (Agree.of_yields fun s k => fixedRequest c (.supplyTotals epoch))
    rintro supply _ rfl
    apply Agree.bind (Agree.of_yields fun s k => fixedRequest c (.delegationTotal epoch))
    rintro delegated _ rfl
    apply Agree.bind (Agree.of_yields fun s k => fixedListing c (.poolPower epoch))
    rintro pools _ rfl
    exact agreeWrite (fun _ => rfl) (fun _ => rfl) fun s s' hs => hs.putTotals _
  | delegators =>
    apply Agree.bind (agreeInventory c epoch)
    rintro rows _ rfl
    apply Agree.bind (agreeLookup c _ _ _)
    rintro found _ rfl
    apply Agree.bind (agreeWrite (fun _ => rfl) (fun _ => rfl) fun s s' hs => hs.putSummaries _)
    intro _ _ _
    dsimp only
    split
    · exact Agree.bind (Q := fun _ _ => True) (Agree.throw _) fun _ _ _ => Agree.pure rfl
    · exact Agree.pure rfl

section

variable {p p' : EpochCheckpoint} (hp : p'.untimed = p.untimed)
include hp

theorem wants_congr (c : Settings) (step : EpochStep) : c.wants p' step = c.wants p step := by
  unfold Settings.wants
  rw [← EpochCheckpoint.untimed_isDone, hp, EpochCheckpoint.untimed_isDone]

theorem agreeRunStep (c : Settings) (epoch : Epoch) (step : EpochStep) :
    Agree (Twins f Eq) (runStep c epoch p step : Run L (Option (EpochStep × Nat)))
      (runStep c epoch p' step) Eq := by
  unfold runStep
  rw [wants_congr hp]
  split
  · apply Agree.bind (agreeStepWork c epoch step)
    rintro rows _ rfl
    apply Agree.getBind
    intro w w' _
    apply Agree.bind (agreeWrite (fun _ => rfl) (fun _ => rfl) fun s s' hs =>
      hs.markStep epoch step w.now w'.now)
    exact fun _ _ _ => Agree.pure rfl
  · exact Agree.pure rfl

theorem agreeRunSteps (c : Settings) (epoch : Epoch) (steps : List EpochStep) :
    Agree (Twins f Eq) (runSteps c epoch p steps : Run L (List (EpochStep × Nat)))
      (runSteps c epoch p' steps) Eq := by
  induction steps with
  | nil => exact Agree.pure rfl
  | cons step rest ih =>
    apply Agree.bind (agreeRunStep hp c epoch step)
    rintro first _ rfl
    apply Agree.bind ih
    rintro others _ rfl
    exact Agree.pure rfl

end

theorem agreeSyncEpoch (c : Settings) (epoch : Epoch) :
    Agree (Twins f Eq) (syncEpoch c epoch : Run L EpochReport) (syncEpoch c epoch) Eq := by
  have hread : Agree (Twins f Eq) (checkpoint epoch : Run L EpochCheckpoint) (checkpoint epoch)
      fun p p' => p'.untimed = p.untimed := by
    have hstored : Agree (Twins f Eq) (call (.checkpoint epoch) : Run L (Option EpochCheckpoint))
        (call (.checkpoint epoch))
        fun p p' => p'.map EpochCheckpoint.untimed = p.map EpochCheckpoint.untimed := by
      apply agreeRead fun _ => rfl
      intro s s' hs
      rw [← Store.untimedCheckpoints_get?, ← Store.untimedCheckpoints_get?, hs.checkpoints]
    apply Agree.bind hstored
    intro p p' hp
    apply Agree.pure
    rcases p with _ | p <;> rcases p' with _ | p'
    · rfl
    · cases hp
    · cases hp
    · exact Option.some.inj hp
  apply Agree.bind hread
  intro p p' hp
  apply Agree.bind (agreeRunSteps hp c epoch EpochStep.all)
  rintro ran _ rfl
  exact Agree.pure rfl

theorem agreeSyncEach (c : Settings) (report : EpochsReport) (epochs : List Epoch) :
    Agree (Twins f Eq) (syncEach c report epochs : Run L EpochsReport) (syncEach c report epochs)
      Eq := by
  induction epochs generalizing report with
  | nil => exact Agree.pure rfl
  | cons epoch rest ih =>
    apply Agree.bind (agreeSyncEpoch c epoch).attempt
    intro r r' hr
    obtain rfl := hr.eq
    rcases r' with cause | _ <;> exact ih _

theorem agreePlanEpochs (c : Settings) :
    Agree (Twins f Eq) (planEpochs c : Run L (EpochsReport × List Epoch)) (planEpochs c) Eq := by
  apply Agree.bind (agreeKnownTip c)
  rintro tip _ rfl
  split
  · exact Agree.pure rfl
  · next last _ =>
    split
    · exact Agree.pure rfl
    · have hstored : Agree (Twins f Eq)
          (call (.checkpoints c.backfillFrom last) : Run L (List EpochCheckpoint))
          (call (.checkpoints c.backfillFrom last))
          fun ps ps' => ps'.map EpochCheckpoint.untimed = ps.map EpochCheckpoint.untimed := by
        apply agreeRead fun _ => rfl
        intro s s' hs
        rw [Store.untimed_checkpointsBetween, Store.untimed_checkpointsBetween, hs.checkpoints]
      apply Agree.bind hstored
      intro ps ps' hps
      have hcomplete (ps : List EpochCheckpoint) :
          (ps.filter fun p => p.isComplete c.includeDelegators).map (fun p => p.epoch) =
            ((ps.map EpochCheckpoint.untimed).filter fun p =>
              p.isComplete c.includeDelegators).map fun p => p.epoch := by
        rw [List.filter_map, List.map_map]
        simp only [Function.comp_def, EpochCheckpoint.untimed_isComplete]
        rfl
      dsimp only
      rw [hcomplete ps, hcomplete ps', hps]
      exact Agree.pure rfl

/-- Two syncs of epochs in twin worlds come to the same and leave twin worlds. -/
theorem agreeSyncEpochs (c : Settings) :
    Agree (Twins f Eq) (syncEpochs c : Run L EpochsReport) (syncEpochs c) Eq := by
  apply Agree.bind (agreePlanEpochs c)
  rintro plan _ rfl
  exact agreeSyncEach c plan.1 plan.2

end Run

end GovernanceIndex
