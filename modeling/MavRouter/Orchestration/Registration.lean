import MavRouter.Orchestration.SpawnAll
import MavRouter.Routing.Answers

set_option autoImplicit false

namespace MavRouter.Orchestration

open Routing

theorem registerGroups_shards (i : Nat) (endpoints : List EndpointConfig) (rt : RoutingTable) :
    (registerGroups i endpoints rt).shards = rt.shards := by
  induction endpoints generalizing i rt with
  | nil => rfl
  | cons cfg rest ih =>
    rw [registerGroups, ih]
    cases cfg.group <;> rfl

theorem registeredTable_shards (config : Config) : (registeredTable config).shards = RoutingTable.new.shards := by
  rw [registeredTable]
  split_ifs
  · exact registerGroups_shards 0 config.endpoint RoutingTable.new
  · exact registerGroups_shards 0 config.endpoint RoutingTable.new

theorem registeredTable_system (config : Config) (sysid : UInt8) : (registeredTable config).system sysid = none := by
  rw [RoutingTable.system, RoutingTable.shardFor, registeredTable_shards]
  rfl

theorem registeredTable_wellFormed (config : Config) : WellFormed (registeredTable config) where
  routes i key member := by
    rw [registeredTable_shards] at member
    exact new_wellFormed.routes i key member
  sysRoutes i sysid member := by
    rw [registeredTable_shards] at member
    exact new_wellFormed.sysRoutes i sysid member
  counters i := by
    rw [registeredTable_shards]
    exact new_wellFormed.counters i

def Registers (i : Nat) (endpoints : List EndpointConfig) (group : String) (id : EndpointId) : Prop :=
  ∃ k cfg, endpoints[k]? = some cfg ∧ cfg.group = some group ∧ id = ⟨i + k⟩

theorem registers_cons (i : Nat) (cfg : EndpointConfig) (rest : List EndpointConfig) (group : String)
    (id : EndpointId) :
    Registers i (cfg :: rest) group id ↔ (cfg.group = some group ∧ id = ⟨i⟩) ∨ Registers (i + 1) rest group id := by
  constructor
  · rintro ⟨k, other, found, named, rfl⟩
    cases k with
    | zero =>
      rw [List.getElem?_cons_zero, Option.some.injEq] at found
      exact .inl ⟨found ▸ named, rfl⟩
    | succ k => exact .inr ⟨k, other, found, named, by rw [Nat.add_assoc, Nat.add_comm 1]⟩
  · rintro (⟨named, rfl⟩ | ⟨k, other, found, named, rfl⟩)
    · exact ⟨0, cfg, rfl, named, rfl⟩
    · exact ⟨k + 1, other, found, named, by rw [Nat.add_assoc, Nat.add_comm 1]⟩

theorem registerGroups_policy (i : Nat) (endpoints : List EndpointConfig) (rt : RoutingTable)
    (fresh : ∀ k, i ≤ k → (absPolicy rt.config).groupOf ⟨k⟩ = none) :
    let policy := absPolicy (registerGroups i endpoints rt).config
    (∀ id group, policy.groupOf id = some group ↔
      (absPolicy rt.config).groupOf id = some group ∨ Registers i endpoints group id) ∧
    ∀ id group, id ∈ policy.members group ↔
      id ∈ (absPolicy rt.config).members group ∨ Registers i endpoints group id := by
  induction endpoints generalizing i rt with
  | nil => simp [registerGroups, Registers]
  | cons cfg rest ih =>
    simp only [registers_cons, registerGroups]
    cases named : cfg.group with
    | none =>
      have later := ih (i + 1) rt (fun k behind => fresh k (by omega))
      simpa using later
    | some own =>
      have registered := absPolicy_setEndpointGroup rt ⟨i⟩ own
      have later := ih (i + 1) (rt.setEndpointGroup ⟨i⟩ own) (by
        intro k behind
        have other : (⟨k⟩ : EndpointId) ≠ ⟨i⟩ := by
          intro same
          have := EndpointId.mk.inj same
          omega
        rw [registered]
        exact (Function.update_of_ne other ..).trans (fresh k (by omega)))
      rw [registered] at later
      constructor
      · intro id group
        rw [later.1, ← or_assoc]
        apply or_congr_left
        by_cases same : id = ⟨i⟩
        · subst same
          simp [Policy.apply, fresh i (Nat.le_refl i)]
        · simp [Policy.apply, same]
      · intro id group
        rw [later.2, ← or_assoc]
        apply or_congr_left
        by_cases same : group = own
        · subst same
          simp [Policy.apply, or_comm]
        · simp [Policy.apply, same, Ne.symm same]

def InGroup (config : Config) (group : String) (id : EndpointId) : Prop :=
  ∃ cfg, config.endpoint[id.id]? = some cfg ∧ cfg.group = some group

theorem registered_groups (config : Config) :
    let policy := absPolicy (registeredTable config).config
    (∀ id group, policy.groupOf id = some group ↔ InGroup config group id) ∧
      ∀ id group, id ∈ policy.members group ↔ InGroup config group id := by
  have registers (group : String) (id : EndpointId) :
      Registers 0 config.endpoint group id ↔ InGroup config group id := by
    constructor
    · rintro ⟨k, cfg, found, named, rfl⟩
      rw [Nat.zero_add]
      exact ⟨cfg, found, named⟩
    · rintro ⟨cfg, found, named⟩
      exact ⟨id.id, cfg, found, named, by rw [Nat.zero_add]⟩
  obtain ⟨groupOf, members⟩ := registerGroups_policy 0 config.endpoint RoutingTable.new (fun k _ => rfl)
  have sniffers : (absPolicy (registeredTable config).config).groupOf =
        (absPolicy (registerGroups 0 config.endpoint RoutingTable.new).config).groupOf ∧
      (absPolicy (registeredTable config).config).members =
        (absPolicy (registerGroups 0 config.endpoint RoutingTable.new).config).members := by
    rw [registeredTable]
    split_ifs <;> exact ⟨rfl, rfl⟩
  constructor
  · intro id group
    rw [sniffers.1, groupOf, registers]
    exact or_iff_right (by simp [absPolicy, RoutingTable.new, GroupConfig.default])
  · intro id group
    rw [sniffers.2, members, registers]
    exact or_iff_right (by simp [absPolicy, RoutingTable.new, GroupConfig.default])

end MavRouter.Orchestration
