import MavRouter.Routing.Answers

set_option autoImplicit false

namespace MavRouter.Routing

open Maps RoutingTable

abbrev Registration := EndpointId × String

def registerGroups (table : RoutingTable) (calls : List Registration) : RoutingTable :=
  calls.foldl (fun table call => table.setEndpointGroup call.1 call.2) table

def GroupConfig.Belongs (cfg : GroupConfig) (id : EndpointId) (group : String) : Prop :=
  ∃ members, cfg.groupMembers.lookup group = some members ∧ id ∈ members

def GroupConfig.shares (cfg : GroupConfig) (ep endpointId : EndpointId) : Bool :=
  cfg.anyInSameGroup (AList.singleton ep ()) endpointId

structure GroupsInStep (calls : List Registration) (cfg : GroupConfig) : Prop where
  inverse : ∀ id group, cfg.Belongs id group ↔ cfg.endpointGroups.lookup id = some group
  symmetric : ∀ a b, a ∈ cfg.endpointGroups → b ∈ cfg.endpointGroups → cfg.shares a b = cfg.shares b a
  moved : ∀ id former other, (id, former) ∈ calls → cfg.endpointGroups.lookup id ≠ some former →
    cfg.endpointGroups.lookup other = some former → cfg.shares id other = false ∧ cfg.shares other id = false

def SingleNames (calls : List Registration) : Prop :=
  ∀ id group other, (id, group) ∈ calls → (id, other) ∈ calls → group = other

theorem belongs_iff (cfg : GroupConfig) (id : EndpointId) (group : String) :
    cfg.Belongs id group ↔ id ∈ (absPolicy cfg).members group := by
  cases stored : cfg.groupMembers.lookup group <;> simp [GroupConfig.Belongs, absPolicy, stored]

theorem shares_iff (cfg : GroupConfig) (ep endpointId : EndpointId) :
    cfg.shares ep endpointId = true ↔
      ∃ group, cfg.endpointGroups.lookup endpointId = some group ∧ cfg.Belongs ep group := by
  simp only [GroupConfig.shares, anyInSameGroup_iff, HashSet.toFinset_singleton, Finset.mem_singleton, belongs_iff,
    exists_eq_left]
  rfl

section SetEndpointGroup

variable (table : RoutingTable) (id : EndpointId) (group : String)

theorem setEndpointGroup_lookup (other : EndpointId) :
    (table.setEndpointGroup id group).config.endpointGroups.lookup other =
      if other = id then some group else table.config.endpointGroups.lookup other := by
  have policy := congrArg (fun policy => policy.groupOf other) (absPolicy_setEndpointGroup table id group)
  simpa only [absPolicy, Policy.apply, Function.update_apply] using policy

theorem setEndpointGroup_belongs (other : EndpointId) (name : String) :
    (table.setEndpointGroup id group).config.Belongs other name ↔
      table.config.Belongs other name ∨ (other, name) = (id, group) := by
  rw [belongs_iff, belongs_iff, absPolicy_setEndpointGroup, Policy.apply, Prod.mk.injEq]
  by_cases same : name = group
  · subst same
    simp [or_comm]
  · simp [same]

end SetEndpointGroup

theorem registerGroups_concat (table : RoutingTable) (calls : List Registration) (call : Registration) :
    registerGroups table (calls ++ [call]) = (registerGroups table calls).setEndpointGroup call.1 call.2 :=
  List.foldl_concat ..

theorem belongs_registered (calls : List Registration) (id : EndpointId) (group : String) :
    (registerGroups RoutingTable.new calls).config.Belongs id group ↔ (id, group) ∈ calls := by
  induction calls using List.reverseRecOn with
  | nil => simp [registerGroups, RoutingTable.new, GroupConfig.default, GroupConfig.Belongs]
  | append_singleton calls call ih =>
    rw [registerGroups_concat, setEndpointGroup_belongs, ih, List.mem_append, List.mem_singleton]

theorem lookup_registered (calls : List Registration) (id : EndpointId) :
    ((registerGroups RoutingTable.new calls).config.endpointGroups.lookup id = none → ∀ group, (id, group) ∉ calls) ∧
      ∀ group, (registerGroups RoutingTable.new calls).config.endpointGroups.lookup id = some group →
        (id, group) ∈ calls := by
  induction calls using List.reverseRecOn with
  | nil => simp [registerGroups, RoutingTable.new, GroupConfig.default]
  | append_singleton calls call ih =>
    rw [registerGroups_concat, setEndpointGroup_lookup]
    by_cases same : id = call.1
    · subst same
      simp
    · simp only [if_neg same, List.mem_append, List.mem_singleton]
      constructor
      · rintro unknown group (earlier | rfl)
        · exact ih.1 unknown group earlier
        · exact same rfl
      · intro group found
        exact .inl (ih.2 group found)

theorem lookup_single (calls : List Registration) (single : SingleNames calls) (id : EndpointId) (group : String) :
    (registerGroups RoutingTable.new calls).config.endpointGroups.lookup id = some group ↔ (id, group) ∈ calls := by
  obtain ⟨unknown, known⟩ := lookup_registered calls id
  refine ⟨known group, ?_⟩
  intro member
  cases found : (registerGroups RoutingTable.new calls).config.endpointGroups.lookup id with
  | none => exact absurd member (unknown found group)
  | some other => rw [single id other group (known other found) member]

theorem groups_in_step (calls : List Registration) :
    GroupsInStep calls (registerGroups RoutingTable.new calls).config ↔ SingleNames calls := by
  constructor
  · intro inStep id group other first second
    have stored := (inStep.inverse id group).mp ((belongs_registered calls id group).mpr first)
    have again := (inStep.inverse id other).mp ((belongs_registered calls id other).mpr second)
    exact Option.some.inj (stored.symm.trans again)
  · intro single
    have lookup := lookup_single calls single
    refine ⟨?_, ?_, ?_⟩
    · intro id group
      rw [belongs_registered, lookup]
    · intro a b first second
      have shared (a b : EndpointId) :
          (registerGroups RoutingTable.new calls).config.shares a b = true ↔
            ∃ group, (b, group) ∈ calls ∧ (a, group) ∈ calls := by
        simp only [shares_iff, belongs_registered, lookup]
      rw [Bool.eq_iff_iff, shared, shared]
      simp only [and_comm]
    · intro id former other registered left
      exact absurd ((lookup id former).mpr registered) left

theorem moved_still_shares :
    let calls : List Registration := [(⟨0⟩, "a"), (⟨1⟩, "a"), (⟨0⟩, "b")]
    let cfg := (registerGroups RoutingTable.new calls).config
    cfg.shares ⟨0⟩ ⟨1⟩ = true ∧ cfg.shares ⟨1⟩ ⟨0⟩ = false ∧ ¬GroupsInStep calls cfg := by
  intro calls cfg
  have stale : cfg.shares ⟨0⟩ ⟨1⟩ = true := by decide +kernel
  have current : cfg.shares ⟨1⟩ ⟨0⟩ = false := by decide +kernel
  refine ⟨stale, current, ?_⟩
  intro inStep
  have same := inStep.symmetric ⟨0⟩ ⟨1⟩ (by decide +kernel) (by decide +kernel)
  rw [stale, current] at same
  cases same

end MavRouter.Routing
