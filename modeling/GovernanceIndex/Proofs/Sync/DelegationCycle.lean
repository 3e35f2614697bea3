import GovernanceIndex.Proofs.Sync.CycleRule

/-!
Cycles of the delegation sync. Whatever a cycle comes to, and whichever calls fail in it, it leaves
a chained store whose log continues the one before it.
-/
namespace GovernanceIndex

/-- A chained store whose log continues another one. -/
structure Store.Continues (log : List DelegationChange) (s : Store) : Prop where
  chained : s.Chained
  continued : log <+: s.changes

open Store (Continues)

variable {log : List DelegationChange}

theorem Store.Continues.sameLog {s s' : Store} (h : Continues log s) (hs : s.SameLog s') :
    Continues log s' := by
  obtain ⟨hchained, hlog⟩ := h
  constructor
  · intro a
    rw [hs.changesOf, Store.delegateOf, hs.states]
    exact hchained a
  · rw [hs.changes]
    exact hlog

theorem Store.Continues.cycleInvariant (log : List DelegationChange) (epoch : Epoch)
    (observed : List (StakeAddress × Observation)) :
    CycleInvariant epoch observed (fun _ _ => True) (Continues log) := by
  constructor
  · exact fun s s' hs h => h.sameLog hs
  · rintro s now ⟨hchained, hlog⟩ x - hnone us -
    have hdelegate : s.delegateOf x.1 = none := by
      unfold Store.delegateOf
      rw [hnone, Option.map_none]
    obtain ⟨hchanges, hstate⟩ := History.replay_address x.1 us now
    constructor
    · apply hchained.handOver hchanges hstate
      rw [hdelegate, Option.or_none]
      exact History.replay_leads x.1 us now
    · exact hlog.trans (List.prefix_append s.changes _)
  · rintro s now ⟨hchained, hlog⟩ x - - d hd
    constructor
    · exact (Difference.of_fits hd).2.chained hchained
    · exact hlog.trans (List.prefix_append s.changes _)

/-- A cycle that ends or halts continues the log of a chained store. -/
theorem Run.syncDelegations_ensures {L : Type} [LedgerService L] (c : Settings) :
    Ensures (Continues log) (syncDelegations c : Run L DelegationsReport)
      (fun _ => Continues log) (Continues log) := by
  rw [syncDelegations_eq]
  apply Ensures.bind ((Reads.observe c).ensures fun s s' hs h => h.sameLog hs.sameLog)
  intro (epoch, found)
  have hcycle := reconcile_triple (L := L) (V := fun _ _ => True) c found
    (Store.Continues.cycleInvariant log epoch _) fun _ _ _ _ _ => trivial
  exact hcycle.mono (fun w hw => ⟨LedgerService.answers_trivial w.ledger, hw⟩)
    (fun _ _ hw => hw.1) fun _ => id

/-- A cycle to be run: its settings, and the world apart from the store that its worker meets. -/
structure DelegationCycle (L : Type) where
  settings : Settings
  world : World L

namespace DelegationCycle

variable {L : Type} [LedgerService L]

def run (k : DelegationCycle L) (s : Store) : Store :=
  (Run.syncDelegations k.settings).storeAfter k.world s

/-- The store behind cycles that were run one after the other, from an empty one on. -/
def runAll (ks : List (DelegationCycle L)) : Store := ks.foldl (fun s k => k.run s) {}

theorem run_continues (k : DelegationCycle L) {s : Store} (h : s.Chained) :
    Continues s.changes (k.run s) :=
  (Run.syncDelegations_ensures k.settings).storeAfter k.world ⟨h, List.prefix_refl s.changes⟩

theorem runAll_chained (ks : List (DelegationCycle L)) : (runAll ks).Chained := by
  have hrun (s : Store) (hs : s.Chained) : (ks.foldl (fun s k => k.run s) s).Chained := by
    induction ks generalizing s with
    | nil => exact hs
    | cons k ks ih => exact ih (k.run s) (k.run_continues hs).chained
  exact hrun {} fun a => rfl

/-- Behind any cycles the changes of an address start from no delegate and lead, each from where the
one before it ended to another delegate, to that of its state; it has a state once it has a change.
A further cycle appends to the log only. -/
theorem changes_lead_to_state (ks : List (DelegationCycle L)) (next : DelegationCycle L) :
    let s := runAll ks
    (∀ a : StakeAddress,
      let log := s.changesOf a
      log.head?.bind (fun c => c.source) = none ∧
      log.IsChain (fun earlier later => later.source = some earlier.target) ∧
      (log.all fun c => c.source ≠ some c.target) ∧
      ((s.states.get? a).isSome ↔ log ≠ []) ∧
      (s.states.get? a).map (fun x => x.delegate) = log.getLast?.map fun c => c.target) ∧
    s.changes <+: (next.run s).changes := by
  intro s
  have hchained : s.Chained := runAll_chained ks
  refine ⟨fun a => ?_, (next.run_continues hchained).continued⟩
  intro log
  have hleads : DelegationChange.Leads none log (s.delegateOf a) := hchained a
  have hlast : (s.states.get? a).map (fun x => x.delegate) = log.getLast?.map fun c => c.target := by
    rw [← Option.or_none (o := log.getLast?.map fun c => c.target)]
    exact hleads.last
  refine ⟨?_, hleads.isChain, ?_, ?_, hlast⟩
  · rcases hhead : log.head? with _ | c
    · rfl
    · exact hleads.head c hhead
  · rw [List.all_eq_true]
    intro c hc
    exact decide_eq_true (hleads.moves c hc)
  · have hsome := congrArg Option.isSome hlast
    rw [Option.isSome_map, Option.isSome_map] at hsome
    rw [hsome]
    exact List.getLast?_isSome

end DelegationCycle

end GovernanceIndex
