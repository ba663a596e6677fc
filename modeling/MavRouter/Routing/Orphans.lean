import MavRouter.Routing.Expiry

set_option autoImplicit false

namespace MavRouter.Routing

open Maps Sightings RoutingTable

def NoOrphans (table : RoutingTable) : Prop :=
  ∀ sysid compid comp, table.component sysid compid = some comp →
    (∃ entry, table.system sysid = some entry ∧ ∀ endpointId ∈ comp.endpoints, endpointId ∈ entry.endpoints) ∧
    ∀ endpointId ∈ comp.endpoints, table.shouldSend endpointId sysid compid = true

-- The observation is not older than what the other components of its system carry.
def InOrder (table : RoutingTable) : TableOp → Prop
  | .update _ sysid compid now _ =>
    ∀ c comp, c ≠ compid → table.component sysid c = some comp → comp.lastSeen ≤ now
  | _ => True

def OrderedRun (ops : List TableOp) : Prop :=
  ∀ older op newer, ops = older ++ op :: newer → InOrder (RoutingTable.new.run older) op

-- A system entry lists whatever its components list and is at least as young as each of them.
def Covered (reference : Reference) : Prop :=
  ∀ sysid compid comp, reference.routes (sysid, compid) = some comp →
    ∃ entry, reference.sysRoutes sysid = some entry ∧ comp.observers ⊆ entry.observers ∧ comp.lastSeen ≤ entry.lastSeen

theorem covered_update (reference : Reference) (covered : Covered reference) (endpointId : EndpointId)
    (sysid compid : UInt8) (now clock : Instant)
    (inOrder : ∀ c comp, c ≠ compid → reference.routes (sysid, c) = some comp → comp.lastSeen ≤ now) :
    Covered (reference.apply (.update endpointId sysid compid now clock)) := by
  intro s c comp found
  change reference.routes.see (sysid, compid) endpointId now (s, c) = some comp at found
  change ∃ entry, reference.sysRoutes.see sysid endpointId now s = some entry ∧ _
  by_cases same : s = sysid
  · subst same
    refine ⟨_, see_same _ _ _ _, ?_⟩
    by_cases own : c = compid
    · subst own
      rw [see_same, Option.some.injEq] at found
      subst found
      refine ⟨Finset.insert_subset_insert _ ?_, le_refl now⟩
      intro observer member
      obtain ⟨old, known, listed⟩ := (mem_observersOf _ _).mp member
      obtain ⟨entry, system, inside, _⟩ := covered s c old known
      exact (mem_observersOf _ _).mpr ⟨entry, system, inside listed⟩
    · rw [see_other _ _ _ _ _ (by simp [own])] at found
      obtain ⟨entry, system, inside, _⟩ := covered s c comp found
      refine ⟨?_, inOrder c comp own found⟩
      intro observer member
      exact Finset.mem_insert_of_mem ((mem_observersOf _ _).mpr ⟨entry, system, inside member⟩)
  · rw [see_other _ _ _ _ _ (by simp [same])] at found
    rw [see_other _ _ _ _ _ same]
    exact covered s c comp found

theorem covered_prune (reference : Reference) (covered : Covered reference) (now : Instant) (maxAge : Duration) :
    Covered (reference.apply (.prune now maxAge)) := by
  intro s c comp found
  obtain ⟨before, young⟩ := (expire_eq_some ..).mp found
  obtain ⟨entry, system, inside, newer⟩ := covered s c comp before
  exact ⟨entry, (expire_eq_some ..).mpr ⟨system, by omega⟩, inside, newer⟩

theorem covered_apply (table : RoutingTable) (covered : Covered (abs table)) (op : TableOp)
    (inOrder : InOrder table op) :
    Covered ((abs table).apply op) := by
  cases op with
  | setEndpointGroup id group => exact covered
  | setSnifferSysids sysids => exact covered
  | prune now maxAge => exact covered_prune (abs table) covered now maxAge
  | update endpointId sysid compid now clock =>
    apply covered_update (abs table) covered
    intro c comp other found
    obtain ⟨entry, known, rfl⟩ := Option.map_eq_some_iff.mp found
    exact inOrder c entry other known

theorem covered_noOrphans (table : RoutingTable) (covered : Covered (abs table)) : NoOrphans table := by
  intro sysid compid comp found
  obtain ⟨sighting, system, inside, _⟩ :=
    covered sysid compid (absEntry comp) (congrArg (Option.map absEntry) found)
  obtain ⟨entry, known, rfl⟩ := Option.map_eq_some_iff.mp system
  refine ⟨⟨entry, known, ?_⟩, ?_⟩
  · intro endpointId member
    exact (HashSet.mem_toFinset _ _).mp (inside ((HashSet.mem_toFinset _ _).mpr member))
  · intro endpointId member
    have listed := (HashSet.mem_toFinset comp.endpoints endpointId).mpr member
    have component : (abs table).routes (sysid, compid) = some (absEntry comp) := congrArg (Option.map absEntry) found
    rw [shouldSend_iff]
    refine .inr (.inr ⟨absEntry entry, system, .inl ?_⟩)
    rw [Reference.deciding, component]
    split_ifs
    · exact inside listed
    · exact listed

theorem ordered_covered (ops : List TableOp) (ordered : OrderedRun ops) :
    WellFormed (RoutingTable.new.run ops) ∧ Covered (abs (RoutingTable.new.run ops)) := by
  revert ordered
  apply Runs.run_history TableOp.apply RoutingTable.new
    (fun ops table => OrderedRun ops → WellFormed table ∧ Covered (abs table))
  · intro _
    refine ⟨new_wellFormed, ?_⟩
    intro sysid compid comp found
    cases found
  · intro ops op ih ordered
    have earlier : OrderedRun ops :=
      ((Runs.eachStep_concat (fun older next => InOrder (RoutingTable.new.run older) next) ops op).mp ordered).1
    obtain ⟨wellFormed, covered⟩ := ih earlier
    refine ⟨apply_wellFormed _ op wellFormed, ?_⟩
    rw [abs_apply _ op wellFormed]
    exact covered_apply _ covered op (ordered ops op [] rfl)

-- An observation older than another component's stamp dates the whole system back: a prune right after
-- it, at that component's own time, drops the system entry and keeps the component.
theorem late_update_orphans (table : RoutingTable) (wellFormed : WellFormed table) (endpointId : EndpointId)
    (sysid compid : UInt8) (now clock : Instant) (c : UInt8) (comp : RouteEntry) (other : c ≠ compid)
    (known : table.component sysid c = some comp) (late : now < comp.lastSeen) :
    ¬NoOrphans ((table.update endpointId sysid compid now clock).prune comp.lastSeen 0) := by
  intro noOrphans
  let op : TableOp := .update endpointId sysid compid now clock
  let prune : TableOp := .prune comp.lastSeen 0
  have learned : abs (op.apply table) = (abs table).apply op := abs_apply table op wellFormed
  have pruned : abs (prune.apply (op.apply table)) = ((abs table).apply op).apply prune := by
    rw [abs_apply _ prune (apply_wellFormed table op wellFormed), learned]
  have component : (abs (prune.apply (op.apply table))).routes (sysid, c) = some (absEntry comp) := by
    rw [pruned]
    refine (expire_eq_some ..).mpr ⟨?_, by simp [absEntry]⟩
    change (abs table).routes.see (sysid, compid) endpointId now (sysid, c) = _
    rw [see_other _ _ _ _ _ (by simp [other])]
    exact congrArg (Option.map absEntry) known
  have system : (abs (prune.apply (op.apply table))).sysRoutes sysid = none := by
    rw [pruned]
    change ((abs table).sysRoutes.see sysid endpointId now).expire comp.lastSeen 0 sysid = none
    rw [Board.expire, see_same, Option.filter_some, if_neg]
    rw [decide_eq_true_eq]
    exact Nat.not_le_of_lt (Nat.sub_pos_of_lt late)
  obtain ⟨entry, found, _⟩ := Option.map_eq_some_iff.mp component
  obtain ⟨⟨sys, present, _⟩, _⟩ := noOrphans sysid c entry found
  have absent : ((prune.apply (op.apply table)).system sysid).map absEntry = none := system
  rw [show (prune.apply (op.apply table)).system sysid = some sys from present] at absent
  cases absent

theorem ordered_concat (ops : List TableOp) (ordered : OrderedRun ops) (op : TableOp)
    (inOrder : InOrder (RoutingTable.new.run ops) op) : OrderedRun (ops ++ [op]) := by
  exact (Runs.eachStep_concat (fun older next => InOrder (RoutingTable.new.run older) next) ops op).mpr
    ⟨ordered, inOrder⟩

theorem ordered_run_never_orphans (ops : List TableOp) (ordered : OrderedRun ops) :
    (∀ reached, reached <+: ops → NoOrphans (RoutingTable.new.run reached)) ∧
    ∀ endpointId sysid compid now clock,
      (∀ at_ maxAge, NoOrphans
        (((RoutingTable.new.run ops).update endpointId sysid compid now clock).prune at_ maxAge)) ↔
        InOrder (RoutingTable.new.run ops) (.update endpointId sysid compid now clock) := by
  constructor
  · rintro reached ⟨rest, rfl⟩
    apply covered_noOrphans
    apply (ordered_covered reached ?_).2
    intro older op newer split
    exact ordered older op (newer ++ rest) (by simp [split])
  · intro endpointId sysid compid now clock
    constructor
    · intro safe c comp other known
      by_contra late
      exact late_update_orphans _ (ordered_covered ops ordered).1 endpointId sysid compid now clock c comp other known
        (Nat.lt_of_not_le late) (safe comp.lastSeen 0)
    · intro inOrder at_ maxAge
      have extended := ordered_concat ops ordered _ inOrder
      have again := ordered_concat _ extended (.prune at_ maxAge) trivial
      have noOrphans := covered_noOrphans _ (ordered_covered _ again).2
      simpa only [RoutingTable.run, List.foldl_append, List.foldl_cons, List.foldl_nil, TableOp.apply] using noOrphans

-- One component may be stamped backwards: its own entry moves along with that of its system.
def backwardRun : List TableOp := [.update ⟨0⟩ 1 1 10 10, .update ⟨1⟩ 1 1 2 10]

theorem ordered_run_never_orphans_backward :
    (∀ reached, reached <+: backwardRun → NoOrphans (RoutingTable.new.run reached)) ∧
    ∀ endpointId sysid compid now clock,
      (∀ at_ maxAge, NoOrphans
        (((RoutingTable.new.run backwardRun).update endpointId sysid compid now clock).prune at_ maxAge)) ↔
        InOrder (RoutingTable.new.run backwardRun) (.update endpointId sysid compid now clock) := by
  have empty : OrderedRun [] := by
    intro older op newer split
    simp at split
  have alone : ∀ c : UInt8, c ≠ 1 → ((RoutingTable.new.run [.update ⟨0⟩ 1 1 10 10]).component 1 c).isNone := by
    decide +kernel
  have first : OrderedRun [.update ⟨0⟩ 1 1 10 10] := ordered_concat [] empty _ (by
    intro c comp _ known
    cases known)
  have second : OrderedRun backwardRun := ordered_concat _ first (.update ⟨1⟩ 1 1 2 10) (by
    intro c comp other known
    have absent := alone c other
    rw [known] at absent
    cases absent)
  exact ordered_run_never_orphans backwardRun second

-- Endpoint 0's observation of component 1 was stamped before that of endpoint 1 and is applied after it.
def lateRun : List TableOp := [.update ⟨1⟩ 1 2 10 10, .update ⟨0⟩ 1 1 2 10, .prune 13 5]

theorem late_observation_orphans :
    ¬NoOrphans (RoutingTable.new.run lateRun) ∧
      ((RoutingTable.new.run lateRun).component 1 2).any (fun comp => decide (⟨1⟩ ∈ comp.endpoints)) = true ∧
      ((RoutingTable.new.run lateRun).system 1).isNone ∧ (RoutingTable.new.run lateRun).shouldSend ⟨1⟩ 1 2 = false := by
  have component : ((RoutingTable.new.run lateRun).component 1 2).any
      (fun comp => decide (⟨1⟩ ∈ comp.endpoints)) = true := by decide +kernel
  have system : ((RoutingTable.new.run lateRun).system 1).isNone := by decide +kernel
  refine ⟨?_, component, system, by decide +kernel⟩
  intro noOrphans
  obtain ⟨comp, found, _⟩ := (Option.any_eq_true _ _).mp component
  obtain ⟨⟨entry, present, _⟩, _⟩ := noOrphans 1 2 comp found
  rw [present] at system
  cases system

end MavRouter.Routing
