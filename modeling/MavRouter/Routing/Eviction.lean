import MavRouter.Routing.Accounting

set_option autoImplicit false

namespace MavRouter.Routing

open Maps Maps.Counters

def OldestSystem (shard : Shard) (sysid : UInt8) : Prop :=
  ∃ entry, shard.sysRoutes.lookup sysid = some entry ∧
    ∀ other later, shard.sysRoutes.lookup other = some later → entry.lastSeen ≤ later.lastSeen

structure EvictedFrom (before after : Shard) (sysid : UInt8) : Prop where
  oldest : OldestSystem before sysid
  systems : ∀ other, after.sysRoutes.lookup other = if other = sysid then none else before.sysRoutes.lookup other
  components : ∀ key, after.routes.lookup key = if key.1 = sysid then none else before.routes.lookup key

def evictionReleases (shard : Shard) : List (EndpointId × Nat) :=
  match shard.sysRoutes.entries.argmin fun entry => entry.2.lastSeen with
  | none => []
  | some ⟨oldestSysid, entry⟩ =>
    (entry.endpoints.keys ++ shard.routes.entries.flatMap fun route =>
      if route.1.1 = oldestSysid then route.2.endpoints.keys else []).map fun endpoint => (endpoint, 1)

theorem releaseEndpoints_eq (counts : HashMap EndpointId Nat) (entry : RouteEntry) :
    releaseEndpoints counts entry = releaseAll counts (entry.endpoints.keys.map fun endpoint => (endpoint, 1)) := by
  rw [releaseEndpoints, releaseAll, List.foldl_map]

theorem releaseAll_append (counts : HashMap EndpointId Nat) (first second : List (EndpointId × Nat)) :
    releaseAll counts (first ++ second) = releaseAll (releaseAll counts first) second :=
  List.foldl_append

theorem releaseRoutes_eq (counts : HashMap EndpointId Nat) (sysid : UInt8)
    (routes : List (Sigma fun _ : UInt8 × UInt8 => RouteEntry)) :
    routes.foldl (fun counts entry => if entry.1.1 = sysid then releaseEndpoints counts entry.2 else counts) counts =
      releaseAll counts ((routes.flatMap fun route =>
        if route.1.1 = sysid then route.2.endpoints.keys else []).map fun endpoint => (endpoint, 1)) := by
  induction routes generalizing counts with
  | nil => rfl
  | cons route rest ih =>
    rw [List.foldl_cons, ih, List.flatMap_cons, List.map_append, releaseAll_append]
    congr 1
    split_ifs
    · exact releaseEndpoints_eq counts route.2
    · rfl

theorem count_routes (sysid : UInt8) (routes : List (Sigma fun _ : UInt8 × UInt8 => RouteEntry))
    (endpoint : EndpointId) :
    (routes.flatMap fun route => if route.1.1 = sysid then route.2.endpoints.keys else []).count endpoint =
      routes.countP fun route => decide (route.1.1 = sysid) && listed endpoint route.1 route.2 := by
  induction routes with
  | nil => rfl
  | cons route rest ih =>
    rw [List.flatMap_cons, List.count_append, ih, List.countP_cons, Nat.add_comm]
    congr 1
    by_cases own : route.1.1 = sysid <;> simp [own, listed, HashSet.count_keys]

section Oldest

variable (shard : Shard) (sysid : UInt8) (entry : RouteEntry)
  (oldest : shard.sysRoutes.entries.argmin (fun entry => entry.2.lastSeen) = some ⟨sysid, entry⟩)

include oldest

theorem oldest_found : shard.sysRoutes.lookup sysid = some entry :=
  AList.mem_lookup_iff.mpr (List.argmin_mem oldest)

theorem oldest_counts :
    (shardRemoveOldestSystem shard).endpointCounts = releaseAll shard.endpointCounts (evictionReleases shard) := by
  have found := oldest_found shard sysid entry oldest
  simp only [shardRemoveOldestSystem, evictionReleases, oldest, found]
  rw [List.map_append, releaseAll_append, ← releaseEndpoints_eq, ← releaseRoutes_eq]

theorem oldest_occurrences (endpoint : EndpointId) :
    occurrences (shardRemoveOldestSystem shard) endpoint + amount (evictionReleases shard) endpoint =
      occurrences shard endpoint := by
  have found := oldest_found shard sysid entry oldest
  have system := HashMap.count_erase shard.sysRoutes (listed endpoint) sysid
  have components := shard.routes.count_retain (fun key _ => !decide (key.1 = sysid)) (listed endpoint)
  have own : (listed endpoint sysid entry).toNat = entry.endpoints.keys.count endpoint := by
    rw [HashSet.count_keys, listed]
    by_cases member : endpoint ∈ entry.endpoints <;> simp [member]
  simp only [Bool.not_not] at components
  rw [found, HashMap.hit, own] at system
  simp only [evictionReleases, oldest]
  rw [amount_ones, List.count_append, count_routes]
  simp only [occurrences, shardRemoveOldestSystem, oldest]
  simp only [HashMap.count] at *
  omega

theorem oldest_evicted : EvictedFrom shard (shardRemoveOldestSystem shard) sysid := by
  have found := oldest_found shard sysid entry oldest
  refine ⟨⟨entry, found, ?_⟩, ?_, ?_⟩
  · intro other later stored
    have smallest := List.le_of_mem_argmin (f := fun entry : Sigma fun _ : UInt8 => RouteEntry => entry.2.lastSeen)
      (AList.mem_lookup_iff.mp stored) oldest
    exact smallest
  · intro other
    simp only [shardRemoveOldestSystem, oldest]
    split_ifs with same
    · subst same
      exact AList.lookup_erase other shard.sysRoutes
    · exact AList.lookup_erase_ne same
  · intro key
    simp only [shardRemoveOldestSystem, oldest, HashMap.lookup_retain]
    by_cases same : key.1 = sysid <;> cases shard.routes.lookup key <;> simp [same]

end Oldest

theorem argmin_none (shard : Shard) (none : shard.sysRoutes.entries.argmin (fun entry => entry.2.lastSeen) = .none) :
    shardRemoveOldestSystem shard = shard ∧ evictionReleases shard = [] ∧ shard.sysRoutes.entries = [] := by
  simp only [shardRemoveOldestSystem, evictionReleases, none]
  exact ⟨trivial, trivial, List.argmin_eq_none.mp none⟩

theorem shardRemoveOldestSystem_exact (shard : Shard) (consistent : Consistent shard) :
    Consistent (shardRemoveOldestSystem shard) ∧ NeverClips shard.endpointCounts (evictionReleases shard) := by
  cases oldest : shard.sysRoutes.entries.argmin fun entry => entry.2.lastSeen with
  | none =>
    obtain ⟨same, nothing, _⟩ := argmin_none shard oldest
    rw [same, nothing]
    exact ⟨consistent, trivial⟩
  | some found =>
    obtain ⟨sysid, entry⟩ := found
    exact consistent.released _ (oldest_counts shard sysid entry oldest) (oldest_occurrences shard sysid entry oldest)

theorem shardRemoveOldestSystem_counts (shard : Shard) :
    (shardRemoveOldestSystem shard).endpointCounts = releaseAll shard.endpointCounts (evictionReleases shard) := by
  cases oldest : shard.sysRoutes.entries.argmin fun entry => entry.2.lastSeen with
  | none =>
    obtain ⟨same, nothing, _⟩ := argmin_none shard oldest
    rw [same, nothing]
    rfl
  | some found => exact oldest_counts shard found.1 found.2 oldest

theorem shardRemoveOldestSystem_evicts (shard : Shard) (systems : shard.sysRoutes.entries ≠ []) :
    ∃ sysid, EvictedFrom shard (shardRemoveOldestSystem shard) sysid := by
  cases oldest : shard.sysRoutes.entries.argmin fun entry => entry.2.lastSeen with
  | none => exact absurd (argmin_none shard oldest).2.2 systems
  | some found => exact ⟨found.1, oldest_evicted shard found.1 found.2 oldest⟩

-- The subtractions of both capacity branches of an update, the second one made on what the first one leaves.
def capacityReleases (clock : Instant) (shard : Shard) : List (EndpointId × Nat) :=
  let pruned := if maxRoutesPerShard ≤ shard.routes.len then shardPrune clock (Duration.fromSecs 60) shard else shard
  (if maxRoutesPerShard ≤ shard.routes.len then pruneReleases clock (Duration.fromSecs 60) shard else []) ++
    if maxSystemsPerShard ≤ pruned.sysRoutes.len then evictionReleases pruned else []

theorem enforceCapacity_exact (clock : Instant) (shard : Shard) (consistent : Consistent shard) :
    Consistent (enforceCapacity clock shard) ∧
      (enforceCapacity clock shard).endpointCounts =
        releaseAll shard.endpointCounts (capacityReleases clock shard) ∧
      NeverClips shard.endpointCounts (capacityReleases clock shard) := by
  have second (pruned : Shard) (exact : Consistent pruned) :
      let full := maxSystemsPerShard ≤ pruned.sysRoutes.len
      let after := if full then shardRemoveOldestSystem pruned else pruned
      let releases := if full then evictionReleases pruned else []
      Consistent after ∧ after.endpointCounts = releaseAll pruned.endpointCounts releases ∧
        NeverClips pruned.endpointCounts releases := by
    intro full after releases
    by_cases reached : full
    · obtain ⟨kept, covered⟩ := shardRemoveOldestSystem_exact pruned exact
      simp only [after, releases, if_pos reached]
      exact ⟨kept, shardRemoveOldestSystem_counts pruned, covered⟩
    · simp only [after, releases, if_neg reached]
      exact ⟨exact, rfl, trivial⟩
  by_cases crowded : maxRoutesPerShard ≤ shard.routes.len
  · obtain ⟨pruned, covered⟩ := shardPrune_exact clock (Duration.fromSecs 60) shard consistent
    have counts := shardPrune_counts clock (Duration.fromSecs 60) shard
    obtain ⟨kept, counted, later⟩ := second _ pruned
    simp only [enforceCapacity, capacityReleases, if_pos crowded]
    rw [releaseAll_append, neverClips_append, ← counts]
    exact ⟨kept, counted, covered, later⟩
  · simp only [enforceCapacity, capacityReleases, if_neg crowded, List.nil_append]
    exact second shard consistent

theorem counters_exact (shard : Shard) (consistent : Consistent shard) :
    (∀ endpointId sysid compid now clock,
      Consistent (shardUpdate endpointId sysid compid now clock shard) ∧
      (enforceCapacity clock shard).endpointCounts = releaseAll shard.endpointCounts (capacityReleases clock shard) ∧
      NeverClips shard.endpointCounts (capacityReleases clock shard)) ∧
    (∀ now maxAge,
      Consistent (shardPrune now maxAge shard) ∧
      (shardPrune now maxAge shard).endpointCounts =
        releaseAll shard.endpointCounts (pruneReleases now maxAge shard) ∧
      NeverClips shard.endpointCounts (pruneReleases now maxAge shard)) ∧
    Consistent (shardRemoveOldestSystem shard) ∧
    (shardRemoveOldestSystem shard).endpointCounts = releaseAll shard.endpointCounts (evictionReleases shard) ∧
    NeverClips shard.endpointCounts (evictionReleases shard) ∧
    (shard.sysRoutes.entries ≠ [] → ∃ sysid, EvictedFrom shard (shardRemoveOldestSystem shard) sysid) := by
  refine ⟨?_, ?_, ?_⟩
  · intro endpointId sysid compid now clock
    obtain ⟨kept, counts, covered⟩ := enforceCapacity_exact clock shard consistent
    exact ⟨shardLearn_consistent endpointId sysid compid now _ kept, counts, covered⟩
  · intro now maxAge
    obtain ⟨kept, covered⟩ := shardPrune_exact now maxAge shard consistent
    exact ⟨kept, shardPrune_counts now maxAge shard, covered⟩
  · obtain ⟨kept, covered⟩ := shardRemoveOldestSystem_exact shard consistent
    exact ⟨kept, shardRemoveOldestSystem_counts shard, covered, shardRemoveOldestSystem_evicts shard⟩

theorem default_consistent : Consistent Shard.default := empty_represents

def learnedShard : Shard := shardLearn ⟨1⟩ 9 1 7 (shardLearn ⟨1⟩ 1 2 6 (shardLearn ⟨0⟩ 1 1 5 Shard.default))

theorem learnedShard_consistent : Consistent learnedShard :=
  shardLearn_consistent ⟨1⟩ 9 1 7 _ (shardLearn_consistent ⟨1⟩ 1 2 6 _
    (shardLearn_consistent ⟨0⟩ 1 1 5 _ default_consistent))

theorem counters_exact_learned :
    Consistent (shardPrune 20 14 learnedShard) ∧
      (shardPrune 20 14 learnedShard).endpointCounts =
        releaseAll learnedShard.endpointCounts (pruneReleases 20 14 learnedShard) ∧
      NeverClips learnedShard.endpointCounts (evictionReleases learnedShard) ∧
      ∃ sysid, EvictedFrom learnedShard (shardRemoveOldestSystem learnedShard) sysid := by
  obtain ⟨_, pruned, _, _, covered, evicts⟩ := counters_exact learnedShard learnedShard_consistent
  exact ⟨(pruned 20 14).1, (pruned 20 14).2.1, covered, evicts (List.cons_ne_nil _ _)⟩

end MavRouter.Routing
