import GovernanceIndex.Proofs.Sync.EpochInventory
import GovernanceIndex.Proofs.Sync.FixedReplies
import GovernanceIndex.Proofs.Sync.Frames

/-!
Charted stores: an epoch has rows of an inventory only once its first step is marked. As long as no
call of the store meets a fault, syncs keep a store charted, since between the rows of an epoch and
their mark nothing can fail.
-/
namespace GovernanceIndex

namespace Store

/-- Every row of an inventory is stored once, and an epoch whose first step is not marked has none.
-/
structure Charted (s : Store) : Prop where
  filed : s.Filed
  unmarked : ∀ e, s.syncedAt e .dreps = none → s.snapshotsOf e = []

variable {s s' : Store} {e : Epoch} {rows : List DelegateSnapshot}

theorem Charted.congr (h : s.Charted) (hrows : s'.snapshots = s.snapshots)
    (hmarks : ∀ e, s'.syncedAt e .dreps = s.syncedAt e .dreps) : s'.Charted := by
  refine ⟨⟨hrows ▸ h.filed.distinct, hrows ▸ h.filed.own⟩, fun e he => ?_⟩
  unfold snapshotsOf
  rw [hrows]
  exact h.unmarked e ((hmarks e).symm.trans he)

theorem Charted.sameData (h : s.Charted) (hs : s.SameData s') : s'.Charted :=
  h.congr (hs.eq fun s => s.snapshots) fun e => hs.eq fun s => s.syncedAt e .dreps

/-- Rows of an epoch were put into a charted store, and wait for their mark. -/
def Filling (e : Epoch) (s : Store) : Prop :=
  ∃ (s₀ : Store) (rows : List DelegateSnapshot), s₀.Charted ∧ (∀ r ∈ rows, r.epoch = e) ∧
    s = s₀.putSnapshots rows

theorem Filling.markStep (h : Filling e s) (now : Timestamp) :
    (s.markStep e .dreps now).Charted := by
  obtain ⟨s, rows, h, hrows, rfl⟩ := h
  have hfiled := h.filed.putSnapshots rows
  refine ⟨⟨hfiled.distinct, hfiled.own⟩, fun e' he' => ?_⟩
  have hother : e' ≠ e := by
    rintro rfl
    rw [markStep_syncedAt, if_pos ⟨rfl, rfl⟩, Option.or_eq_none_iff] at he'
    exact nomatch he'.2
  rw [markStep_syncedAt, if_neg fun hsame => hother hsame.1] at he'
  have hworks := Works.putSnapshots s hrows
  have hkept := hworks.rows e' .dreps fun hsame => hother hsame.1
  exact (StepRows.delegates.inj hkept).trans (h.unmarked e' he')

theorem Filed.snapshotsOf_sorted (h : s.Filed) (e : Epoch) :
    (s.snapshotsOf e).Pairwise fun a b => a.delegate.le b.delegate = true := by
  unfold snapshotsOf ofEpoch
  rw [List.pairwise_map]
  have hsorted := Identifier.pairwise_mergeSort
    (fun x : (Epoch × DelegateId) × DelegateSnapshot => x.1.2)
    (s.snapshots.entries.filter fun x => x.1.1 = e)
  have hkey {x : (Epoch × DelegateId) × DelegateSnapshot}
      (hx : x ∈ (s.snapshots.entries.filter fun x => x.1.1 = e).mergeSort
        fun a b => a.1.2.le b.1.2) : x.1.2 = x.2.delegate := by
    have hmem := (List.mem_filter.mp (List.mem_mergeSort.mp hx)).1
    exact congrArg Prod.snd (h.own x.1 x.2 (Table.get?_of_mem_entries h.distinct hmem))
  apply hsorted.imp_of_mem
  intro a b ha hb hab
  rw [← hkey ha, ← hkey hb]
  exact hab

/-- Sorted rows of distinct delegates are read as they were put into an epoch without rows. -/
theorem Filed.snapshotsOf_putSnapshots (h : s.Filed) (hempty : s.snapshotsOf e = [])
    (hrows : ∀ r ∈ rows, r.epoch = e) (hdistinct : (rows.map fun r => r.delegate).Nodup)
    (hsorted : rows.Pairwise fun a b => a.delegate.le b.delegate = true) :
    (s.putSnapshots rows).snapshotsOf e = rows := by
  have hfiled := h.putSnapshots rows
  have hmem (r : DelegateSnapshot) : r ∈ (s.putSnapshots rows).snapshotsOf e ↔ r ∈ rows := by
    by_cases hd : r.delegate ∈ rows.map fun x => x.delegate
    · obtain ⟨x, hx, hxd, hiff⟩ := h.exists_mem_putSnapshots hrows hd
      rw [hiff r rfl]
      exact ⟨fun hr => hr ▸ hx, fun hr => List.inj_on_of_nodup_map hdistinct hr hx hxd.symm⟩
    · rw [h.mem_putSnapshots_of_not_mem hd, hempty]
      exact iff_of_false List.not_mem_nil fun hr => hd (List.mem_map_of_mem hr)
  have hperm : ((s.putSnapshots rows).snapshotsOf e).Perm rows :=
    (List.perm_ext_iff_of_nodup (hfiled.snapshotsOf_nodup e).of_map hdistinct.of_map).mpr hmem
  apply hperm.eq_of_pairwise _ (hfiled.snapshotsOf_sorted e) hsorted
  intro a b ha hb hab hba
  exact List.inj_on_of_nodup_map hdistinct ((hmem a).mp ha) hb (Identifier.le_antisymm hab hba)

end Store

namespace World

variable {L : Type}

/-- A charted store stays charted, and without faults. -/
def Charts (w w' : World L) : Prop :=
  w.Faultless ∧ w.store.Charted → w'.Faultless ∧ w'.store.Charted

instance : IsPreorder (World L) Charts where
  refl _ := id
  trans _ _ _ h h' := fun hw => h' (h hw)

namespace Charts

variable {w : World L}

theorem call (w : World L) {k : StoreCall}
    (hk : ∀ r s, w.store.perform k = .ok (r, s) → s.snapshots = w.store.snapshots ∧
      ∀ e, s.syncedAt e .dreps = w.store.syncedAt e .dreps) : Charts w (w.call k).2 := by
  rintro ⟨hfaultless, hcharted⟩
  refine ⟨hfaultless.call k, ?_⟩
  rcases w.call_cases k with ⟨r, v, hr, hp⟩ | ⟨cause, v, hr, hs⟩ <;> rw [hr]
  · obtain ⟨hrows, hmarks⟩ := hk r v.store hp
    exact hcharted.congr hrows hmarks
  · exact hs ▸ hcharted

theorem calls : CallFrame
    (fun s s' => s'.snapshots = s.snapshots ∧ ∀ e, s'.syncedAt e .dreps = s.syncedAt e .dreps)
    (Charts : World L → World L → Prop) where
  call w _ := call w
  still w w' hstore hfaults := by
    unfold Charts Faultless
    rw [hstore, hfaults]
    exact id

theorem of_sameData (s s' : Store) (h : s.SameData s') : s'.snapshots = s.snapshots ∧
    ∀ e, s'.syncedAt e .dreps = s.syncedAt e .dreps :=
  ⟨h.eq fun s => s.snapshots, fun e => h.eq fun s => s.syncedAt e .dreps⟩

variable [LedgerService L]

theorem syncDelegations (c : Settings) :
    Run.Shifts Charts (Run.syncDelegations c : Run L DelegationsReport) := by
  apply (calls.frame of_sameData fun k hk s r s' hp => ?_).syncDelegations c
  cases k <;> cases hk <;> cases hp <;> exact ⟨rfl, fun _ => rfl⟩

theorem reading : World.Frame (fun _ => false) (Charts : World L → World L → Prop) :=
  calls.frame of_sameData fun _ hk => nomatch hk

end Charts

end World

open World (Charts)

namespace Run

variable {L : Type} [LedgerService L]

omit [LedgerService L] in
theorem faultlessCall {k : StoreCall} {effect : Store → k.Result × Store} {P Q : Store → Prop}
    (hk : ∀ s : Store, s.perform k = .ok (effect s)) (h : ∀ s, P s → Q (effect s).2) :
    Triple (fun w => w.Faultless ∧ P w.store) (call k : Run L k.Result)
      (fun _ w => w.Faultless ∧ Q w.store) fun _ => False := by
  rintro w ⟨hfaultless, hw⟩
  obtain ⟨v, hr, hv, hstore⟩ := hfaultless.call_apply hk
  rw [hr]
  refine ⟨hv ▸ hfaultless.call k, ?_⟩
  rw [hstore]
  exact h w.store hw

theorem fillDelegates (c : Settings) (epoch : Epoch) :
    Triple (fun w : World L => w.Faultless ∧ w.store.Charted) (stepWork c epoch .dreps)
      (fun _ w => w.Faultless ∧ w.store.Filling epoch)
      (fun w => w.Faultless ∧ w.store.Charted) := by
  have hfetch : Triple (fun w : World L => w.Faultless ∧ w.store.Charted) (fetchInventory c epoch)
      (fun rows w => (∀ r ∈ rows, r.epoch = epoch) ∧ w.Faultless ∧ w.store.Charted)
      (fun w => w.Faultless ∧ w.store.Charted) := by
    intro w hw
    have hkept := Charts.reading.fetchInventory c epoch w hw
    rcases hr : fetchInventory c epoch w with ⟨halt | rows, v⟩ <;> rw [hr] at hkept
    · exact hkept
    · exact ⟨fetchInventory_epoch c epoch w rows v hr, hkept⟩
  apply Triple.bind hfetch
  intro rows
  apply Triple.assuming
  intro hrows
  have hput : Triple (fun w : World L => w.Faultless ∧ w.store.Charted)
      (call (.putSnapshots rows)) (fun _ w => w.Faultless ∧ w.store.Filling epoch)
      fun _ => False := faultlessCall (fun _ => rfl) fun s hs => ⟨s, rows, hs, hrows, rfl⟩
  apply Triple.bind (hput.mono (fun _ => id) (fun _ _ => id) fun _ => False.elim)
  exact fun _ _ hw => hw

theorem chartDelegates (c : Settings) (epoch : Epoch) (p : EpochCheckpoint) :
    Shifts Charts (runStep c epoch p .dreps : Run L (Option (EpochStep × Nat))) := by
  unfold runStep
  split
  · intro w hw
    refine Triple.final (Triple.bind (fillDelegates c epoch) fun written => ?_) hw
    apply Triple.getBind
    intro w₀
    have hmark : Triple (fun w : World L => w.Faultless ∧ w.store.Filling epoch)
        (call (.markStep epoch .dreps w₀.now)) (fun _ w => w.Faultless ∧ w.store.Charted)
        fun _ => False :=
      faultlessCall (Q := Store.Charted) (fun _ => rfl) fun s hs => hs.markStep w₀.now
    apply Triple.bind (hmark.mono (fun _ hw => hw.2) (fun _ _ => id) fun _ => False.elim)
    exact fun _ => Triple.pure fun _ => id
  · exact Shifts.pure _

theorem chartStep (c : Settings) (epoch : Epoch) (p : EpochCheckpoint) {step : EpochStep}
    (hstep : step ≠ .dreps) :
    Shifts Charts (runStep c epoch p step : Run L (Option (EpochStep × Nat))) := by
  have hcall {k : StoreCall} {effect : Store → k.Result × Store}
      (hk : ∀ s : Store, s.perform k = .ok (effect s))
      (heffect : ∀ s : Store, (effect s).2.snapshots = s.snapshots ∧
        ∀ e, (effect s).2.syncedAt e .dreps = s.syncedAt e .dreps) :
      Shifts Charts (call k : Run L k.Result) := by
    intro w
    rw [call_world]
    apply Charts.call
    intro r s hp
    obtain rfl : (effect w.store).2 = s :=
      congrArg Prod.snd (Except.ok.inj ((hk w.store).symm.trans hp))
    exact heffect w.store
  have hwork : Shifts Charts (stepWork c epoch step : Run L Nat) := by
    cases step with
    | dreps => exact absurd rfl hstep
    | totals =>
      refine Shifts.bind ?_ fun _ => Shifts.pure _
      exact Shifts.bind (Charts.reading.request c _) fun _ =>
        Shifts.bind (Charts.reading.request c _) fun _ =>
        Shifts.bind (Charts.reading.listing c _) fun _ =>
        hcall (fun _ => rfl) fun _ => ⟨rfl, fun _ => rfl⟩
    | delegators =>
      apply Shifts.bind (Charts.reading.inventory c epoch)
      intro rows
      apply Shifts.bind (Charts.reading.lookup c _ _ _)
      intro found
      refine Shifts.bind (hcall (fun _ => rfl) fun _ => ⟨rfl, fun _ => rfl⟩) ?_
      intro _
      dsimp only
      split
      · exact Shifts.bind (Shifts.throw _) fun _ => Shifts.pure _
      · exact Shifts.pure _
  unfold runStep
  split
  · apply Shifts.bind hwork
    intro written
    apply Shifts.getBind
    intro w
    refine Shifts.bind (hcall (fun _ => rfl) fun s => ⟨rfl, fun e => ?_⟩) fun _ => Shifts.pure _
    exact (s.markStep_syncedAt _ _ _ _ _).trans (if_neg fun hsame => hstep hsame.2.symm)
  · exact Shifts.pure _

theorem chartRunStep (c : Settings) (epoch : Epoch) (p : EpochCheckpoint) (step : EpochStep) :
    Shifts Charts (runStep c epoch p step : Run L (Option (EpochStep × Nat))) := by
  by_cases hdreps : step = .dreps
  · exact hdreps ▸ chartDelegates c epoch p
  · exact chartStep c epoch p hdreps

theorem chartEpoch (c : Settings) (epoch : Epoch) :
    Shifts Charts (syncEpoch c epoch : Run L EpochReport) :=
  Charts.reading.syncEpochBy (chartRunStep c epoch)

/-- A sync of epochs keeps a store charted, whether it ends or halts. -/
theorem chartEpochs (c : Settings) : Shifts Charts (syncEpochs c : Run L EpochsReport) :=
  Charts.reading.syncEpochsBy (chartRunStep c)

end Run

end GovernanceIndex
