import Mathlib.Data.List.MinMax
import MavRouter.Router
import MavRouter.Shared.Counters

set_option autoImplicit false

namespace MavRouter.Routing

open Maps Maps.Counters

def shardCount : Nat := 16
def shardMask : Nat := shardCount - 1

def maxRoutesPerShard : Nat := 100000 / shardCount
def maxSystemsPerShard : Nat := 1000 / shardCount

structure RouteEntry where
  endpoints : HashSet EndpointId
  lastSeen : Instant

structure Shard where
  routes : HashMap (UInt8 × UInt8) RouteEntry
  sysRoutes : HashMap UInt8 RouteEntry
  endpointCounts : HashMap EndpointId Nat

def Shard.default : Shard := ⟨∅, ∅, ∅⟩

def RouteEntry.expired (now : Instant) (maxAge : Duration) (entry : RouteEntry) : Bool :=
  decide (maxAge < Instant.durationSince now entry.lastSeen)

-- The body of both retain closures: count the endpoints of an expired entry before it is dropped.
def tallyExpired {K : Type} (now : Instant) (maxAge : Duration) (m : HashMap K RouteEntry)
    (removed : HashMap EndpointId Nat) : HashMap EndpointId Nat :=
  m.entries.foldl (fun removed entry =>
    if entry.2.expired now maxAge then entry.2.endpoints.keys.foldl (bump usizeMax) removed else removed) removed

def shardPrune (now : Instant) (maxAge : Duration) (shard : Shard) : Shard :=
  let removed := tallyExpired now maxAge shard.routes ∅
  let routes := shard.routes.retain fun _ entry => !entry.expired now maxAge
  let removed := tallyExpired now maxAge shard.sysRoutes removed
  let sysRoutes := shard.sysRoutes.retain fun _ entry => !entry.expired now maxAge
  { routes, sysRoutes
    endpointCounts := removed.entries.foldl (fun counts entry => release counts entry.1 entry.2) shard.endpointCounts }

def releaseEndpoints (counts : HashMap EndpointId Nat) (entry : RouteEntry) : HashMap EndpointId Nat :=
  entry.endpoints.keys.foldl (fun counts endpoint => release counts endpoint 1) counts

def shardRemoveOldestSystem (shard : Shard) : Shard :=
  match shard.sysRoutes.entries.argmin fun entry => entry.2.lastSeen with
  | none => shard
  | some ⟨oldestSysid, _⟩ =>
    let counts :=
      match shard.sysRoutes.lookup oldestSysid with
      | some removedEntry => releaseEndpoints shard.endpointCounts removedEntry
      | none => shard.endpointCounts
    { routes := shard.routes.retain fun key _ => !decide (key.1 = oldestSysid)
      sysRoutes := shard.sysRoutes.erase oldestSysid
      endpointCounts := shard.routes.entries.foldl (fun counts entry =>
        if entry.1.1 = oldestSysid then releaseEndpoints counts entry.2 else counts) counts }

-- entry(key).and_modify(..).or_insert_with(..) of update, with the flag both closures set.
def observe {K : Type} [DecidableEq K] (key : K) (endpointId : EndpointId) (now : Instant)
    (m : HashMap K RouteEntry) : Bool × HashMap K RouteEntry :=
  match m.lookup key with
  | some entry =>
    (!decide (endpointId ∈ entry.endpoints),
      m.insert key { endpoints := entry.endpoints.insert endpointId (), lastSeen := now })
  | none => (true, m.insert key { endpoints := AList.singleton endpointId (), lastSeen := now })

def enforceCapacity (clock : Instant) (shard : Shard) : Shard :=
  let shard := if maxRoutesPerShard ≤ shard.routes.len then shardPrune clock (Duration.fromSecs 60) shard else shard
  if maxSystemsPerShard ≤ shard.sysRoutes.len then shardRemoveOldestSystem shard else shard

def shardLearn (endpointId : EndpointId) (sysid compid : UInt8) (now : Instant) (shard : Shard) : Shard :=
  let routes := observe (sysid, compid) endpointId now shard.routes
  let counts := if routes.1 then bump usizeMax shard.endpointCounts endpointId else shard.endpointCounts
  let sysRoutes := observe sysid endpointId now shard.sysRoutes
  { routes := routes.2
    sysRoutes := sysRoutes.2
    endpointCounts := if sysRoutes.1 then bump usizeMax counts endpointId else counts }

-- The clock is read only by the forced prune; now is the timestamp the observation carries.
def shardUpdate (endpointId : EndpointId) (sysid compid : UInt8) (now clock : Instant) (shard : Shard) : Shard :=
  shardLearn endpointId sysid compid now (enforceCapacity clock shard)

end MavRouter.Routing
