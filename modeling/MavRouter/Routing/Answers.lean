import Mathlib.Algebra.BigOperators.Fin
import MavRouter.Routing.Refinement

set_option autoImplicit false

namespace MavRouter.Routing

open Maps Maps.Counters Sightings RoutingTable

theorem mem_absMap {K : Type} [DecidableEq K] (m : HashMap K RouteEntry) (key : K) (endpointId : EndpointId) :
    endpointId ∈ observersOf (absMap m key) ↔ ∃ entry, m.lookup key = some entry ∧ endpointId ∈ entry.endpoints := by
  cases found : m.lookup key <;> simp [absMap, absEntry, found]

theorem anyInSameGroup_iff (cfg : GroupConfig) (endpoints : HashSet EndpointId) (endpointId : EndpointId) :
    cfg.anyInSameGroup endpoints endpointId = true ↔
      ∃ group, (absPolicy cfg).groupOf endpointId = some group ∧
        ∃ ep ∈ HashSet.toFinset endpoints, ep ∈ (absPolicy cfg).members group := by
  cases grouped : cfg.endpointGroups.lookup endpointId with
  | none => simp [GroupConfig.anyInSameGroup, absPolicy, grouped]
  | some group =>
    cases stored : cfg.groupMembers.lookup group <;>
      simp [GroupConfig.anyInSameGroup, absPolicy, grouped, stored, AList.mem_keys]

theorem isSnifferEndpoint_iff (table : RoutingTable) (endpointId : EndpointId) :
    table.isSnifferEndpoint endpointId = true ↔ (abs table).Sniffer endpointId := by
  have scanned : table.isSnifferEndpoint endpointId =
      table.config.snifferSysids.keys.any fun sysid =>
        heardOn ((table.shardFor sysid).sysRoutes.lookup sysid) endpointId := by
    cases sysids : table.config.snifferSysids.entries <;>
      simp [isSnifferEndpoint, AList.keys, sysids]
  have heard (sysid : UInt8) : heardOn ((table.shardFor sysid).sysRoutes.lookup sysid) endpointId = true ↔
      endpointId ∈ observersOf ((abs table).sysRoutes sysid) := by
    simp only [abs, mem_absMap, heardOn]
    cases (table.shardFor sysid).sysRoutes.lookup sysid <;> simp
  rw [scanned, List.any_eq_true]
  simp only [heard, Reference.Sniffer]
  simp only [abs, absPolicy, HashSet.mem_toFinset, AList.mem_keys]

theorem entryReaches_iff (table : RoutingTable) (entry : RouteEntry) (endpointId : EndpointId) :
    entryReaches table.config entry endpointId = true ↔
      (abs table).Reaches (absEntry entry).observers endpointId := by
  simp only [entryReaches, Bool.or_eq_true, anyInSameGroup_iff, decide_eq_true_eq, Reference.Reaches, abs, absEntry,
    HashSet.mem_toFinset]

theorem shouldSend_iff (table : RoutingTable) (endpointId : EndpointId) (sysid compid : UInt8) :
    table.shouldSend endpointId sysid compid = true ↔ (abs table).ShouldSend endpointId sysid compid := by
  rw [shouldSend, Reference.ShouldSend, ← isSnifferEndpoint_iff]
  by_cases sniffer : table.isSnifferEndpoint endpointId = true
  · simp [sniffer]
  · by_cases everyone : sysid = 0
    · simp [everyone]
    · rw [if_neg sniffer, if_neg everyone]
      simp only [sniffer, everyone, false_or, Bool.false_eq_true]
      have entries : (abs table).sysRoutes sysid = ((table.shardFor sysid).sysRoutes.lookup sysid).map absEntry := rfl
      have components : (abs table).routes (sysid, compid) =
          ((table.shardFor sysid).routes.lookup (sysid, compid)).map absEntry := rfl
      cases known : (table.shardFor sysid).sysRoutes.lookup sysid with
      | none => simp [entries, known]
      | some entry =>
        simp only [entries, known, Option.map_some, Option.some.injEq, exists_eq_left', Reference.deciding,
          components]
        by_cases all : compid = 0
        · simp only [if_pos all, entryReaches_iff]
        · simp only [if_neg all]
          cases (table.shardFor sysid).routes.lookup (sysid, compid) <;>
            simp only [entryReaches_iff, Option.map_none, Option.map_some, Option.getD_none, Option.getD_some]

theorem entryNeedsUpdate_iff {K : Type} [DecidableEq K] (m : HashMap K RouteEntry) (key : K)
    (endpointId : EndpointId) (now : Instant) :
    entryNeedsUpdate (m.lookup key) endpointId now = true ↔ ¬Reference.Fresh (absMap m key) endpointId now := by
  cases found : m.lookup key with
  | none => simp [entryNeedsUpdate, Reference.Fresh, absMap, found]
  | some entry =>
    have late : (Duration.fromSecs 1 ≤ Instant.durationSince now entry.lastSeen) ↔
        ¬now < entry.lastSeen + Duration.fromSecs 1 := by
      have positive : Duration.fromSecs 1 = 1000000000 := rfl
      rw [positive]
      simp only [Instant.durationSince]
      change _ ≤ (_ - _ : Nat) ↔ ¬(_ : Nat) < _
      omega
    simp only [entryNeedsUpdate, Bool.or_eq_true, Bool.not_eq_true', decide_eq_false_iff_not, decide_eq_true_eq, late,
      Reference.Fresh, absMap, found, Option.map_some, Option.some.injEq, exists_eq_left', absEntry,
      HashSet.mem_toFinset, not_and_or]

theorem needsUpdate_iff (table : RoutingTable) (endpointId : EndpointId) (sysid compid : UInt8) (now : Instant) :
    table.needsUpdateForEndpoint endpointId sysid compid now = true ↔
      (abs table).NeedsUpdate endpointId sysid compid now := by
  simp only [needsUpdateForEndpoint, Bool.or_eq_true, entryNeedsUpdate_iff, Reference.NeedsUpdate, not_and_or]
  rfl

theorem foldl_saturatingAdd (total : Nat) (counts : List Nat) (room : total + counts.sum ≤ usizeMax) :
    counts.foldl saturatingAdd total = total + counts.sum := by
  induction counts generalizing total with
  | nil => simp
  | cons count rest ih =>
    rw [List.sum_cons] at room
    have exact : saturatingAdd total count = total + count := Nat.min_eq_right (by omega)
    rw [List.foldl_cons, List.sum_cons, exact, ih (total + count) (by omega)]
    omega

theorem Homed.len_eq {K : Type} [DecidableEq K] [Fintype K] {home : K → Fin shardCount}
    {maps : Fin shardCount → HashMap K RouteEntry} (homed : Homed home maps) (i : Fin shardCount) :
    (maps i).len = (Finset.univ.filter fun key => home key = i ∧ (absShards home maps key).isSome).card := by
  apply HashMap.len_eq_card
  intro key
  simp only [Finset.mem_filter, Finset.mem_univ, true_and, absShards, absMap, Option.isSome_map]
  constructor
  · rintro ⟨rfl, present⟩
    exact present
  · intro present
    have own := homed i key (AList.lookup_isSome.mp present)
    exact ⟨own, by rw [own]; exact present⟩

theorem shards_sum {K : Type} [Fintype K] (home : K → Fin shardCount) (board : Board K EndpointId)
    (len : Fin shardCount → Nat)
    (each : ∀ i, len i = (Finset.univ.filter fun key => home key = i ∧ (board key).isSome).card)
    (room : Fintype.card K ≤ usizeMax) :
    ((List.finRange shardCount).map len).foldl saturatingAdd 0 =
      (Finset.univ.filter fun key => (board key).isSome).card := by
  have whole : ((List.finRange shardCount).map len).sum =
      (Finset.univ.filter fun key => (board key).isSome).card := by
    rw [Finset.card_eq_sum_card_fiberwise (f := home) (t := Finset.univ)
      (fun _ _ => Finset.mem_coe.mpr (Finset.mem_univ _)),
      ← Fin.sum_univ_def]
    apply Finset.sum_congr rfl
    intro i _
    rw [each i, Finset.filter_filter]
    congr 1
    ext key
    simp [and_comm]
  have bound : (Finset.univ.filter fun key => (board key).isSome).card ≤ usizeMax :=
    le_trans (Finset.card_le_univ _) room
  rw [foldl_saturatingAdd 0 _ (by omega), Nat.zero_add, whole]

theorem mem_union_keys (shards : List Shard) (ids : HashSet EndpointId) (endpoint : EndpointId) :
    endpoint ∈ shards.foldl (fun ids shard =>
        shard.endpointCounts.keys.foldl (fun (ids : HashSet EndpointId) ep => ids.insert ep ()) ids) ids ↔
      endpoint ∈ ids ∨ ∃ shard ∈ shards, endpoint ∈ shard.endpointCounts := by
  have inner (keys : List EndpointId) (ids : HashSet EndpointId) :
      endpoint ∈ keys.foldl (fun (ids : HashSet EndpointId) ep => ids.insert ep ()) ids ↔
        endpoint ∈ ids ∨ endpoint ∈ keys := by
    induction keys generalizing ids with
    | nil => simp
    | cons key rest ih =>
      simp only [List.foldl_cons, ih, AList.mem_insert, List.mem_cons]
      tauto
  induction shards generalizing ids with
  | nil => simp
  | cons shard rest ih =>
    simp only [List.foldl_cons, ih, inner, List.mem_cons, exists_eq_or_imp, AList.mem_keys]
    tauto

theorem consistent_mem_iff (shard : Shard) (consistent : Consistent shard) (endpoint : EndpointId) :
    endpoint ∈ shard.endpointCounts ↔
      (∃ key entry, shard.routes.lookup key = some entry ∧ endpoint ∈ entry.endpoints) ∨
        ∃ sysid entry, shard.sysRoutes.lookup sysid = some entry ∧ endpoint ∈ entry.endpoints := by
  rw [Represents.mem_iff consistent endpoint, occurrences, Nat.add_pos_iff_pos_or_pos, HashMap.count_pos_iff,
    HashMap.count_pos_iff]
  simp [listed]

theorem counted_iff (table : RoutingTable) (wellFormed : WellFormed table) (endpoint : EndpointId) :
    (∃ i, endpoint ∈ (table.shards i).endpointCounts) ↔ endpoint ∈ (abs table).endpoints := by
  simp only [Reference.endpoints, Finset.mem_union, Finset.mem_biUnion, Finset.mem_univ, true_and, abs, mem_absMap]
  constructor
  · rintro ⟨i, member⟩
    rcases (consistent_mem_iff _ (wellFormed.counters i) endpoint).mp member with
      ⟨key, entry, found, inside⟩ | ⟨sysid, entry, found, inside⟩
    · have home := wellFormed.routes i key (AList.lookup_isSome.mp (by rw [found]; rfl))
      exact .inl ⟨key, entry, by rw [shardFor, home]; exact found, inside⟩
    · have home := wellFormed.sysRoutes i sysid (AList.lookup_isSome.mp (by rw [found]; rfl))
      exact .inr ⟨sysid, entry, by rw [shardFor, home]; exact found, inside⟩
  · rintro (⟨key, entry, found, inside⟩ | ⟨sysid, entry, found, inside⟩)
    · exact ⟨shardIndex key.1,
        (consistent_mem_iff _ (wellFormed.counters _) endpoint).mpr (.inl ⟨key, entry, found, inside⟩)⟩
    · exact ⟨shardIndex sysid,
        (consistent_mem_iff _ (wellFormed.counters _) endpoint).mpr (.inr ⟨sysid, entry, found, inside⟩)⟩

theorem stats_exact (table : RoutingTable) (wellFormed : WellFormed table) (timestamp : Nat) :
    table.stats timestamp =
      { totalSystems := (abs table).totalSystems, totalRoutes := (abs table).totalRoutes
        totalEndpoints := (abs table).endpoints.card, timestamp } := by
  have systems := shards_sum shardIndex (abs table).sysRoutes (fun i => (table.shards i).sysRoutes.len)
    (Homed.len_eq wellFormed.sysRoutes) (by rw [card_byte, usizeMax]; omega)
  have routes := shards_sum (fun key : UInt8 × UInt8 => shardIndex key.1) (abs table).routes
    (fun i => (table.shards i).routes.len) (Homed.len_eq wellFormed.routes)
    (by rw [Fintype.card_prod, card_byte, usizeMax]; omega)
  simp only [stats, List.foldl_map, RoutingStats.mk.injEq, Reference.totalSystems, Reference.totalRoutes, and_true] at *
  refine ⟨systems, routes, ?_⟩
  rw [← List.foldl_map (f := table.shards) (g := fun ids (shard : Shard) =>
    shard.endpointCounts.keys.foldl (fun (ids : HashSet EndpointId) ep => ids.insert ep ()) ids)]
  apply HashMap.len_eq_card
  intro endpoint
  rw [AList.lookup_isSome, mem_union_keys, ← counted_iff table wellFormed]
  simp

theorem observe_keeps {K : Type} [DecidableEq K] (key other : K) (endpointId : EndpointId) (now : Instant)
    (m : HashMap K RouteEntry) (entry : RouteEntry) (found : m.lookup other = some entry) :
    ∃ entry', (observe key endpointId now m).2.lookup other = some entry' ∧
      ∀ endpoint ∈ entry.endpoints, endpoint ∈ entry'.endpoints := by
  by_cases same : other = key
  · subst same
    refine ⟨{ endpoints := entry.endpoints.insert endpointId (), lastSeen := now }, ?_, ?_⟩
    · simp [observe, found]
    · intro endpoint member
      exact (AList.mem_insert _).mpr (.inr member)
  · refine ⟨entry, ?_, fun endpoint member => member⟩
    cases known : m.lookup key <;> simp [observe, known, AList.lookup_insert_ne same, found]

theorem ObservedIn.keeps {K : Type} [DecidableEq K] {home : K → Fin shardCount}
    {before after : Fin shardCount → HashMap K RouteEntry} {key : K} {endpointId : EndpointId} {now : Instant}
    (observed : ObservedIn home before after key endpointId now) (other : K) (entry : RouteEntry)
    (found : (before (home other)).lookup other = some entry) :
    ∃ entry', (after (home other)).lookup other = some entry' ∧
      ∀ endpoint ∈ entry.endpoints, endpoint ∈ entry'.endpoints := by
  by_cases same : home other = home key
  · rw [same] at found ⊢
    rw [observed.here]
    exact observe_keeps _ _ _ _ _ _ found
  · rw [observed.elsewhere _ same]
    exact ⟨entry, found, fun endpoint member => member⟩

theorem update_keeps (table : RoutingTable) (wellFormed : WellFormed table) (endpointId : EndpointId)
    (sysid compid : UInt8) (now clock : Instant) :
    let next := table.update endpointId sysid compid now clock
    (∀ s c entry, table.component s c = some entry →
      ∃ entry', next.component s c = some entry' ∧ ∀ endpoint ∈ entry.endpoints, endpoint ∈ entry'.endpoints) ∧
    ∀ s entry, table.system s = some entry →
      ∃ entry', next.system s = some entry' ∧ ∀ endpoint ∈ entry.endpoints, endpoint ∈ entry'.endpoints := by
  intro next
  obtain ⟨component, system⟩ := update_observes table wellFormed endpointId sysid compid now clock
  exact ⟨fun s c => component.keeps (s, c), system.keeps⟩

theorem table_refines_reference (ops : List TableOp) :
    let table := RoutingTable.new.run ops
    let reference := Reference.run ops
    (∀ endpointId sysid compid,
      table.shouldSend endpointId sysid compid = true ↔ reference.ShouldSend endpointId sysid compid) ∧
    (∀ endpointId sysid compid now,
      table.needsUpdateForEndpoint endpointId sysid compid now = true ↔
        reference.NeedsUpdate endpointId sysid compid now) ∧
    (∀ timestamp, table.stats timestamp =
      { totalSystems := reference.totalSystems, totalRoutes := reference.totalRoutes
        totalEndpoints := reference.endpoints.card, timestamp }) ∧
    (∀ i, (table.shards i).routes.len < maxRoutesPerShard ∧ (table.shards i).sysRoutes.len < maxSystemsPerShard) ∧
    ∀ endpointId sysid compid now clock,
      let next := table.update endpointId sysid compid now clock
      (∀ s c entry, table.component s c = some entry →
        ∃ entry', next.component s c = some entry' ∧ ∀ endpoint ∈ entry.endpoints, endpoint ∈ entry'.endpoints) ∧
      ∀ s entry, table.system s = some entry →
        ∃ entry', next.system s = some entry' ∧ ∀ endpoint ∈ entry.endpoints, endpoint ∈ entry'.endpoints := by
  intro table reference
  obtain ⟨wellFormed, refines⟩ := run_refines ops
  have same : reference = abs table := refines.symm
  rw [same]
  exact ⟨shouldSend_iff table, needsUpdate_iff table, stats_exact table wellFormed, wellFormed.below_capacity,
    update_keeps table wellFormed⟩

end MavRouter.Routing
