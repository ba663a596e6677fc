import Mathlib.Algebra.BigOperators.Group.Finset.Basic
import Mathlib.Data.Fintype.BigOperators
import MavRouter.Routing.Accounting
import MavRouter.Routing.Reference

set_option autoImplicit false

namespace MavRouter.Routing

open Maps Maps.Counters Sightings RoutingTable

structure WellFormed (table : RoutingTable) : Prop where
  routes : ∀ i, ∀ key ∈ (table.shards i).routes, shardIndex key.1 = i
  sysRoutes : ∀ i, ∀ sysid ∈ (table.shards i).sysRoutes, shardIndex sysid = i
  counters : ∀ i, Consistent (table.shards i)

def shardSystems (i : Fin shardCount) : Finset UInt8 := Finset.univ.filter fun sysid => shardIndex sysid = i

theorem shardSystems_card : ∀ i : Fin shardCount, (shardSystems i).card = 16 := by
  decide +kernel

theorem WellFormed.systems_len {table : RoutingTable} (wellFormed : WellFormed table) (i : Fin shardCount) :
    (table.shards i).sysRoutes.len ≤ 16 := by
  rw [← shardSystems_card i]
  apply HashMap.len_le_of_subset
  intro sysid member
  simpa [shardSystems] using wellFormed.sysRoutes i sysid member

theorem WellFormed.routes_len {table : RoutingTable} (wellFormed : WellFormed table) (i : Fin shardCount) :
    (table.shards i).routes.len ≤ 4096 := by
  have bound := HashMap.len_le_of_subset (table.shards i).routes (shardSystems i ×ˢ (Finset.univ : Finset UInt8))
    (fun key member => by simpa [shardSystems] using wellFormed.routes i key member)
  rw [Finset.card_product, shardSystems_card, Finset.card_univ, card_byte] at bound
  omega

-- Sixteen systems and 16 · 256 components hash to one shard, so neither cap is ever reached.
theorem WellFormed.below_capacity {table : RoutingTable} (wellFormed : WellFormed table) (i : Fin shardCount) :
    (table.shards i).routes.len < maxRoutesPerShard ∧ (table.shards i).sysRoutes.len < maxSystemsPerShard := by
  have routes := wellFormed.routes_len i
  have systems := wellFormed.systems_len i
  simp only [maxRoutesPerShard, maxSystemsPerShard, shardCount]
  omega

theorem WellFormed.capacity_idle {table : RoutingTable} (wellFormed : WellFormed table) (clock : Instant)
    (i : Fin shardCount) : enforceCapacity clock (table.shards i) = table.shards i := by
  obtain ⟨routes, systems⟩ := wellFormed.below_capacity i
  simp only [enforceCapacity, if_neg (Nat.not_le_of_lt routes), if_neg (Nat.not_le_of_lt systems)]

def absEntry (entry : RouteEntry) : Sighting EndpointId :=
  { observers := HashSet.toFinset entry.endpoints, lastSeen := entry.lastSeen }

section Maps

variable {K : Type} [DecidableEq K]

def absMap (m : HashMap K RouteEntry) : Board K EndpointId := fun key => (m.lookup key).map absEntry

theorem absMap_observe (key : K) (endpointId : EndpointId) (now : Instant) (m : HashMap K RouteEntry) :
    absMap (observe key endpointId now m).2 = (absMap m).see key endpointId now := by
  funext other
  by_cases same : other = key
  · subst same
    rw [see_same]
    cases found : m.lookup other <;> simp [observe, absMap, absEntry, observersOf, found]
  · rw [see_other _ _ _ _ _ same]
    cases found : m.lookup key <;> simp [observe, absMap, found, AList.lookup_insert_ne same]

theorem not_expired (now : Instant) (maxAge : Duration) (entry : RouteEntry) :
    (!entry.expired now maxAge) = decide (now - (absEntry entry).lastSeen ≤ maxAge) := by
  simp only [RouteEntry.expired, ← decide_not, Nat.not_lt]
  rfl

theorem absMap_retain (now : Instant) (maxAge : Duration) (m : HashMap K RouteEntry) :
    absMap (m.retain fun _ entry => !entry.expired now maxAge) = (absMap m).expire now maxAge := by
  funext key
  simp only [absMap, Board.expire, HashMap.lookup_retain, not_expired]
  cases m.lookup key with
  | none => rfl
  | some entry => simp only [Option.filter_some, Option.map_some]; split_ifs <;> rfl

theorem mem_observe (key other : K) (endpointId : EndpointId) (now : Instant) (m : HashMap K RouteEntry) :
    other ∈ (observe key endpointId now m).2 ↔ other = key ∨ other ∈ m := by
  cases found : m.lookup key <;> simp [observe, found]

theorem mem_retain (m : HashMap K RouteEntry) (keep : K → RouteEntry → Bool) (key : K) (member : key ∈ m.retain keep) :
    key ∈ m := by
  rw [← AList.lookup_isSome, HashMap.lookup_retain] at member
  rw [← AList.lookup_isSome]
  cases found : m.lookup key <;> simp_all

variable {home : K → Fin shardCount} {before after : Fin shardCount → HashMap K RouteEntry}

def Homed (home : K → Fin shardCount) (maps : Fin shardCount → HashMap K RouteEntry) : Prop :=
  ∀ i, ∀ key ∈ maps i, home key = i

def absShards (home : K → Fin shardCount) (maps : Fin shardCount → HashMap K RouteEntry) : Board K EndpointId :=
  fun key => absMap (maps (home key)) key

structure ObservedIn (home : K → Fin shardCount) (before after : Fin shardCount → HashMap K RouteEntry) (key : K)
    (endpointId : EndpointId) (now : Instant) : Prop where
  here : after (home key) = (observe key endpointId now (before (home key))).2
  elsewhere : ∀ i, i ≠ home key → after i = before i

theorem ObservedIn.homed {key : K} {endpointId : EndpointId} {now : Instant}
    (observed : ObservedIn home before after key endpointId now) (homed : Homed home before) : Homed home after := by
  intro i other member
  by_cases same : i = home key
  · subst same
    rw [observed.here, mem_observe] at member
    cases member with
    | inl own => rw [own]
    | inr old => exact homed _ other old
  · rw [observed.elsewhere i same] at member
    exact homed i other member

theorem ObservedIn.absShards {key : K} {endpointId : EndpointId} {now : Instant}
    (observed : ObservedIn home before after key endpointId now) :
    absShards home after = (absShards home before).see key endpointId now := by
  funext other
  by_cases own : other = key
  · subst own
    rw [see_same, Routing.absShards, observed.here, absMap_observe, see_same]
    rfl
  · rw [see_other _ _ _ _ _ own, Routing.absShards]
    by_cases same : home other = home key
    · rw [same, observed.here, absMap_observe, see_other _ _ _ _ _ own, Routing.absShards, same]
    · rw [observed.elsewhere _ same, Routing.absShards]

end Maps

def absPolicy (cfg : GroupConfig) : Policy where
  groupOf endpointId := cfg.endpointGroups.lookup endpointId
  members group := HashSet.toFinset ((cfg.groupMembers.lookup group).getD ∅)
  sniffers := HashSet.toFinset cfg.snifferSysids

def abs (table : RoutingTable) : Reference where
  routes key := absMap (table.shardFor key.1).routes key
  sysRoutes sysid := absMap (table.shardFor sysid).sysRoutes sysid
  policy := absPolicy table.config

theorem new_wellFormed : WellFormed RoutingTable.new where
  routes i key member := by simp [RoutingTable.new, Shard.default] at member
  sysRoutes i sysid member := by simp [RoutingTable.new, Shard.default] at member
  counters i := empty_represents

theorem update_shard (table : RoutingTable) (wellFormed : WellFormed table) (endpointId : EndpointId)
    (sysid compid : UInt8) (now clock : Instant) :
    table.update endpointId sysid compid now clock =
      { table with
        shards := Function.update table.shards (shardIndex sysid)
          (shardLearn endpointId sysid compid now (table.shards (shardIndex sysid))) } := by
  simp only [RoutingTable.update, shardUpdate, shardFor, wellFormed.capacity_idle]

theorem update_observes (table : RoutingTable) (wellFormed : WellFormed table) (endpointId : EndpointId)
    (sysid compid : UInt8) (now clock : Instant) :
    let next := table.update endpointId sysid compid now clock
    ObservedIn (fun key : UInt8 × UInt8 => shardIndex key.1) (fun i => (table.shards i).routes)
      (fun i => (next.shards i).routes) (sysid, compid) endpointId now ∧
    ObservedIn shardIndex (fun i => (table.shards i).sysRoutes) (fun i => (next.shards i).sysRoutes) sysid endpointId
      now := by
  intro next
  have learned : next.shards = Function.update table.shards (shardIndex sysid)
      (shardLearn endpointId sysid compid now (table.shards (shardIndex sysid))) := by
    rw [show next = _ from update_shard table wellFormed endpointId sysid compid now clock]
  constructor
  · constructor
    · simp [learned, shardLearn]
    · intro i other
      simp [learned, Function.update_of_ne other]
  · constructor
    · simp [learned, shardLearn]
    · intro i other
      simp [learned, Function.update_of_ne other]

theorem apply_wellFormed (table : RoutingTable) (op : TableOp) (wellFormed : WellFormed table) :
    WellFormed (TableOp.apply table op) := by
  cases op with
  | setEndpointGroup id group => exact ⟨wellFormed.routes, wellFormed.sysRoutes, wellFormed.counters⟩
  | setSnifferSysids sysids => exact ⟨wellFormed.routes, wellFormed.sysRoutes, wellFormed.counters⟩
  | prune now maxAge =>
    exact ⟨fun i key member => wellFormed.routes i key (mem_retain _ _ key member),
      fun i sysid member => wellFormed.sysRoutes i sysid (mem_retain _ _ sysid member),
      fun i => shardPrune_consistent now maxAge _ (wellFormed.counters i)⟩
  | update endpointId sysid compid now clock =>
    obtain ⟨component, system⟩ := update_observes table wellFormed endpointId sysid compid now clock
    refine ⟨component.homed wellFormed.routes, system.homed wellFormed.sysRoutes, ?_⟩
    intro i
    rw [TableOp.apply, update_shard table wellFormed]
    by_cases same : i = shardIndex sysid
    · subst same
      simpa only [Function.update_self] using
        shardLearn_consistent endpointId sysid compid now _ (wellFormed.counters (shardIndex sysid))
    · simpa only [Function.update_of_ne same] using wellFormed.counters i

theorem absPolicy_setEndpointGroup (table : RoutingTable) (id : EndpointId) (group : String) :
    absPolicy (table.setEndpointGroup id group).config =
      (absPolicy table.config).apply (.setEndpointGroup id group) := by
  simp only [absPolicy, setEndpointGroup, Policy.apply, Policy.mk.injEq, and_true]
  constructor
  · funext other
    by_cases same : other = id
    · subst same
      simp
    · simp [same]
  · funext other
    by_cases same : other = group
    · subst same
      simp
    · simp [same]

theorem absPolicy_setSnifferSysids (table : RoutingTable) (sysids : List UInt8) :
    absPolicy (table.setSnifferSysids sysids).config =
      (absPolicy table.config).apply (.setSnifferSysids sysids) := by
  have collected (set : HashSet UInt8) :
      HashSet.toFinset (sysids.foldl (fun set sysid => set.insert sysid ()) set) =
        HashSet.toFinset set ∪ sysids.toFinset := by
    induction sysids generalizing set with
    | nil => simp
    | cons sysid rest ih => simp [ih, Finset.insert_union]
  have empty : HashSet.toFinset (∅ : HashSet UInt8) = ∅ := rfl
  simp [absPolicy, setSnifferSysids, Policy.apply, collected, empty]

theorem abs_apply (table : RoutingTable) (op : TableOp) (wellFormed : WellFormed table) :
    abs (TableOp.apply table op) = (abs table).apply op := by
  cases op with
  | setEndpointGroup id group =>
    simp only [abs, Reference.apply, Reference.mk.injEq]
    exact ⟨rfl, rfl, absPolicy_setEndpointGroup table id group⟩
  | setSnifferSysids sysids =>
    simp only [abs, Reference.apply, Reference.mk.injEq]
    exact ⟨rfl, rfl, absPolicy_setSnifferSysids table sysids⟩
  | prune now maxAge =>
    simp only [abs, Reference.apply, Reference.mk.injEq]
    refine ⟨?_, ?_, rfl⟩
    · funext key
      exact congrFun (absMap_retain now maxAge (table.shardFor key.1).routes) key
    · funext sysid
      exact congrFun (absMap_retain now maxAge (table.shardFor sysid).sysRoutes) sysid
  | update endpointId sysid compid now clock =>
    obtain ⟨component, system⟩ := update_observes table wellFormed endpointId sysid compid now clock
    simp only [abs, Reference.apply, Reference.mk.injEq]
    exact ⟨component.absShards, system.absShards, rfl⟩

theorem run_refines (ops : List TableOp) :
    WellFormed (RoutingTable.new.run ops) ∧ abs (RoutingTable.new.run ops) = Reference.run ops :=
  Runs.run_simulates TableOp.apply Reference.apply abs WellFormed
    (fun table op => apply_wellFormed table op) (fun table op => abs_apply table op) ops RoutingTable.new new_wellFormed

end MavRouter.Routing
