import Mathlib.Data.FinEnum
import Mathlib.Data.Fintype.Prod
import MavRouter.Routing.Shard

set_option autoImplicit false

namespace MavRouter.Routing

open Maps Maps.Counters

variable {K : Type}

def listed (endpoint : EndpointId) (_ : K) (entry : RouteEntry) : Bool := decide (endpoint ∈ entry.endpoints)

def expiredListed (now : Instant) (maxAge : Duration) (endpoint : EndpointId) (key : K) (entry : RouteEntry) : Bool :=
  entry.expired now maxAge && listed endpoint key entry

def occurrences (shard : Shard) (endpoint : EndpointId) : Nat :=
  shard.routes.count (listed endpoint) + shard.sysRoutes.count (listed endpoint)

def Consistent (shard : Shard) : Prop := Represents shard.endpointCounts (occurrences shard)

theorem card_byte : Fintype.card UInt8 = 256 := by
  rw [← FinEnum.card_eq_fintypeCard]
  rfl

theorem routes_len (m : HashMap (UInt8 × UInt8) RouteEntry) : m.len ≤ 65536 := by
  have bound := HashMap.len_le_of_subset m ((Finset.univ : Finset UInt8) ×ˢ (Finset.univ : Finset UInt8))
    (fun k _ => by simp)
  rw [Finset.card_product, Finset.card_univ, card_byte] at bound
  omega

theorem sysRoutes_len (m : HashMap UInt8 RouteEntry) : m.len ≤ 256 := by
  have bound := HashMap.len_le_of_subset m Finset.univ fun k _ => Finset.mem_univ k
  rwa [Finset.card_univ, card_byte] at bound

theorem counts_fit (routes : HashMap (UInt8 × UInt8) RouteEntry) (sysRoutes : HashMap UInt8 RouteEntry)
    (p : UInt8 × UInt8 → RouteEntry → Bool) (q : UInt8 → RouteEntry → Bool) :
    routes.count p + sysRoutes.count q + 1 < usizeMax := by
  have first := routes.count_le_len p
  have second := sysRoutes.count_le_len q
  have firstLen := routes_len routes
  have secondLen := sysRoutes_len sysRoutes
  simp only [usizeMax]
  omega

theorem tally_represents [DecidableEq K] (now : Instant) (maxAge : Duration) (m : HashMap K RouteEntry)
    (removed : HashMap EndpointId Nat) (f : EndpointId → Nat) (represents : Represents removed f)
    (room : ∀ endpoint, f endpoint + m.count (expiredListed now maxAge endpoint) ≤ usizeMax) :
    Represents (tallyExpired now maxAge m removed)
      fun endpoint => f endpoint + m.count (expiredListed now maxAge endpoint) := by
  let visited := m.entries.flatMap fun entry =>
    if entry.2.expired now maxAge then entry.2.endpoints.keys else []
  have folded : tallyExpired now maxAge m removed = visited.foldl (bump usizeMax) removed := by
    simp only [visited, tallyExpired, List.foldl_flatMap]
    congr 1
    funext removed entry
    split_ifs <;> rfl
  have counted (endpoint : EndpointId) : visited.count endpoint = m.count (expiredListed now maxAge endpoint) := by
    simp only [visited, HashMap.count]
    induction m.entries with
    | nil => rfl
    | cons entry rest ih =>
      rw [List.flatMap_cons, List.count_append, List.countP_cons, ih, Nat.add_comm]
      congr 1
      by_cases old : entry.2.expired now maxAge <;>
        simp [expiredListed, listed, old, HashSet.count_keys]
  rw [folded]
  simpa only [counted] using bumpAll_represents usizeMax removed f represents visited
    (fun endpoint => by rw [counted endpoint]; exact room endpoint)

def pruneReleases (now : Instant) (maxAge : Duration) (shard : Shard) : List (EndpointId × Nat) :=
  (tallyExpired now maxAge shard.sysRoutes (tallyExpired now maxAge shard.routes ∅)).entries.map
    fun entry => (entry.1, entry.2)

theorem shardPrune_counts (now : Instant) (maxAge : Duration) (shard : Shard) :
    (shardPrune now maxAge shard).endpointCounts =
      releaseAll shard.endpointCounts (pruneReleases now maxAge shard) := by
  rw [releaseAll, pruneReleases, List.foldl_map]
  rfl

theorem amount_pruneReleases (now : Instant) (maxAge : Duration) (shard : Shard) (endpoint : EndpointId) :
    amount (pruneReleases now maxAge shard) endpoint =
      shard.routes.count (expiredListed now maxAge endpoint) +
        shard.sysRoutes.count (expiredListed now maxAge endpoint) := by
  have fits (endpoint : EndpointId) := counts_fit shard.routes shard.sysRoutes
    (expiredListed now maxAge endpoint) (expiredListed now maxAge endpoint)
  have first := tally_represents now maxAge shard.routes ∅ (fun _ => 0) empty_represents
    (fun endpoint => by have := fits endpoint; omega)
  have second := tally_represents now maxAge shard.sysRoutes _ _ first
    (fun endpoint => by have := fits endpoint; omega)
  rw [pruneReleases, amount_entries, second.getD, Nat.zero_add]

theorem shardPrune_occurrences (now : Instant) (maxAge : Duration) (shard : Shard) (endpoint : EndpointId) :
    occurrences (shardPrune now maxAge shard) endpoint + amount (pruneReleases now maxAge shard) endpoint =
      occurrences shard endpoint := by
  have routes := shard.routes.count_retain (fun _ entry => !entry.expired now maxAge) (listed endpoint)
  have sysRoutes := shard.sysRoutes.count_retain (fun _ entry => !entry.expired now maxAge) (listed endpoint)
  simp only [Bool.not_not] at routes sysRoutes
  rw [amount_pruneReleases]
  simp only [occurrences, shardPrune, ← routes, ← sysRoutes]
  change _ + (HashMap.count shard.routes (fun k entry => entry.expired now maxAge && listed endpoint k entry) +
    HashMap.count shard.sysRoutes (fun k entry => entry.expired now maxAge && listed endpoint k entry)) = _
  omega

-- Counters stay exact when what is subtracted is what no longer occurs, and then nothing is cut off at zero.
theorem Consistent.released {shard after : Shard} (consistent : Consistent shard) (releases : List (EndpointId × Nat))
    (counts : after.endpointCounts = releaseAll shard.endpointCounts releases)
    (removed : ∀ endpoint, occurrences after endpoint + amount releases endpoint = occurrences shard endpoint) :
    Consistent after ∧ NeverClips shard.endpointCounts releases := by
  constructor
  · have represented := releaseAll_represents shard.endpointCounts _ consistent releases
    intro endpoint
    have here := represented endpoint
    rw [← counts] at here
    rw [here]
    have remaining : occurrences shard endpoint - amount releases endpoint = occurrences after endpoint := by
      have := removed endpoint
      omega
    simp only [remaining]
  · apply neverClips_of_amount _ _ consistent
    intro endpoint
    have := removed endpoint
    omega

theorem shardPrune_exact (now : Instant) (maxAge : Duration) (shard : Shard) (consistent : Consistent shard) :
    Consistent (shardPrune now maxAge shard) ∧ NeverClips shard.endpointCounts (pruneReleases now maxAge shard) :=
  consistent.released _ (shardPrune_counts now maxAge shard) (shardPrune_occurrences now maxAge shard)

theorem shardPrune_consistent (now : Instant) (maxAge : Duration) (shard : Shard) (consistent : Consistent shard) :
    Consistent (shardPrune now maxAge shard) :=
  (shardPrune_exact now maxAge shard consistent).1

variable [DecidableEq K]

theorem observe_count (key : K) (endpointId : EndpointId) (now : Instant) (m : HashMap K RouteEntry)
    (endpoint : EndpointId) :
    (observe key endpointId now m).2.count (listed endpoint) =
      m.count (listed endpoint) +
        if endpoint = endpointId ∧ (observe key endpointId now m).1 = true then 1 else 0 := by
  cases found : m.lookup key with
  | none =>
    have counted := m.count_insert (listed endpoint) key
      { endpoints := AList.singleton endpointId (), lastSeen := now }
    simp only [found, HashMap.hit, Nat.add_zero] at counted
    simp only [observe, found]
    rw [counted]
    by_cases same : endpoint = endpointId <;> simp [listed, same, AList.mem_keys]
  | some entry =>
    have counted := m.count_insert (listed endpoint) key
      { endpoints := entry.endpoints.insert endpointId (), lastSeen := now }
    simp only [found, HashMap.hit] at counted
    simp only [observe, found]
    by_cases same : endpoint = endpointId
    · subst same
      by_cases member : endpoint ∈ entry.endpoints <;> simp [listed, member] at counted ⊢ <;> omega
    · by_cases member : endpoint ∈ entry.endpoints <;> simp [listed, member, same] at counted ⊢ <;> omega

theorem bump_if_represents (counts : HashMap EndpointId Nat) (f : EndpointId → Nat) (represents : Represents counts f)
    (endpointId : EndpointId) (room : f endpointId < usizeMax) (flag : Bool) :
    Represents (if flag then bump usizeMax counts endpointId else counts)
      fun endpoint => f endpoint + if endpoint = endpointId ∧ flag = true then 1 else 0 := by
  cases flag with
  | false => simpa using represents
  | true =>
    intro endpoint
    have bumped := bump_represents usizeMax counts f represents endpointId room endpoint
    by_cases same : endpoint = endpointId
    · subst same
      simpa using bumped
    · simpa [same] using bumped

theorem shardLearn_consistent (endpointId : EndpointId) (sysid compid : UInt8) (now : Instant) (shard : Shard)
    (consistent : Consistent shard) : Consistent (shardLearn endpointId sysid compid now shard) := by
  have room := counts_fit shard.routes shard.sysRoutes (listed endpointId) (listed endpointId)
  have first := bump_if_represents shard.endpointCounts _ consistent endpointId
    (Nat.lt_of_succ_lt room) (observe (sysid, compid) endpointId now shard.routes).1
  have second := bump_if_represents _ _ first endpointId
    (by simp only [occurrences]; split_ifs <;> omega) (observe sysid endpointId now shard.sysRoutes).1
  intro endpoint
  have routes := observe_count (sysid, compid) endpointId now shard.routes endpoint
  have sysRoutes := observe_count sysid endpointId now shard.sysRoutes endpoint
  have total : occurrences (shardLearn endpointId sysid compid now shard) endpoint =
      occurrences shard endpoint +
        (if endpoint = endpointId ∧ (observe (sysid, compid) endpointId now shard.routes).1 = true then 1 else 0) +
        if endpoint = endpointId ∧ (observe sysid endpointId now shard.sysRoutes).1 = true then 1 else 0 := by
    simp only [occurrences, shardLearn, routes, sysRoutes]
    omega
  rw [total]
  exact second endpoint

end MavRouter.Routing
