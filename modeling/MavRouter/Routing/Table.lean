import MavRouter.Routing.Shard

set_option autoImplicit false

namespace MavRouter.Routing

open Maps Maps.Counters

structure GroupConfig where
  endpointGroups : HashMap EndpointId String
  groupMembers : HashMap String (HashSet EndpointId)
  snifferSysids : HashSet UInt8

def GroupConfig.default : GroupConfig := ⟨∅, ∅, ∅⟩

def GroupConfig.anyInSameGroup (cfg : GroupConfig) (endpoints : HashSet EndpointId) (endpointId : EndpointId) : Bool :=
  match cfg.endpointGroups.lookup endpointId with
  | none => false
  | some group =>
    match cfg.groupMembers.lookup group with
    | none => false
    | some members => endpoints.keys.any fun ep => decide (ep ∈ members)

structure RoutingTable where
  shards : Fin shardCount → Shard
  config : GroupConfig

structure RoutingStats where
  totalSystems : Nat
  totalRoutes : Nat
  totalEndpoints : Nat
  timestamp : Nat
  deriving DecidableEq, Repr

namespace RoutingTable

def new : RoutingTable := { shards := fun _ => Shard.default, config := GroupConfig.default }

def shardIndex (sysId : UInt8) : Fin shardCount :=
  ⟨sysId.toNat &&& shardMask, Nat.and_lt_two_pow (n := 4) sysId.toNat (by decide)⟩

def shardFor (table : RoutingTable) (sysId : UInt8) : Shard := table.shards (shardIndex sysId)

def setEndpointGroup (table : RoutingTable) (id : EndpointId) (group : String) : RoutingTable :=
  let cfg := table.config
  { table with
    config := { cfg with
      endpointGroups := cfg.endpointGroups.insert id group
      groupMembers := cfg.groupMembers.insert group (((cfg.groupMembers.lookup group).getD ∅).insert id ()) } }

def setSnifferSysids (table : RoutingTable) (sysids : List UInt8) : RoutingTable :=
  { table with
    config := { table.config with snifferSysids := sysids.foldl (fun set sysid => set.insert sysid ()) ∅ } }

def heardOn (existing : Option RouteEntry) (endpointId : EndpointId) : Bool :=
  match existing with
  | some entry => decide (endpointId ∈ entry.endpoints)
  | none => false

def isSnifferEndpoint (table : RoutingTable) (endpointId : EndpointId) : Bool :=
  if table.config.snifferSysids.entries.isEmpty then false
  else table.config.snifferSysids.keys.any fun sysid =>
    heardOn ((table.shardFor sysid).sysRoutes.lookup sysid) endpointId

def update (table : RoutingTable) (endpointId : EndpointId) (sysid compid : UInt8) (now clock : Instant) :
    RoutingTable :=
  { table with
    shards := Function.update table.shards (shardIndex sysid)
      (shardUpdate endpointId sysid compid now clock (table.shardFor sysid)) }

def entryNeedsUpdate (existing : Option RouteEntry) (endpointId : EndpointId) (now : Instant) : Bool :=
  match existing with
  | none => true
  | some entry =>
    !decide (endpointId ∈ entry.endpoints) ||
      decide (Duration.fromSecs 1 ≤ Instant.durationSince now entry.lastSeen)

def needsUpdateForEndpoint (table : RoutingTable) (endpointId : EndpointId) (sysid compid : UInt8) (now : Instant) :
    Bool :=
  let shard := table.shardFor sysid
  let compNeedsUpdate := entryNeedsUpdate (shard.routes.lookup (sysid, compid)) endpointId now
  let sysNeedsUpdate := entryNeedsUpdate (shard.sysRoutes.lookup sysid) endpointId now
  compNeedsUpdate || sysNeedsUpdate

def entryReaches (cfg : GroupConfig) (entry : RouteEntry) (endpointId : EndpointId) : Bool :=
  decide (endpointId ∈ entry.endpoints) || cfg.anyInSameGroup entry.endpoints endpointId

def shouldSend (table : RoutingTable) (endpointId : EndpointId) (targetSysid targetCompid : UInt8) : Bool :=
  if table.isSnifferEndpoint endpointId then true
  else if targetSysid = 0 then true
  else
    let shard := table.shardFor targetSysid
    match shard.sysRoutes.lookup targetSysid with
    | none => false
    | some entry =>
      if targetCompid = 0 then entryReaches table.config entry endpointId
      else
        match shard.routes.lookup (targetSysid, targetCompid) with
        | some compEntry => entryReaches table.config compEntry endpointId
        -- Aggressive fallback: the system is known, this component is not.
        | none => entryReaches table.config entry endpointId

def prune (table : RoutingTable) (now : Instant) (maxAge : Duration) : RoutingTable :=
  { table with shards := fun i => shardPrune now maxAge (table.shards i) }

def stats (table : RoutingTable) (timestamp : Nat) : RoutingStats :=
  let shards := (List.finRange shardCount).map table.shards
  { totalSystems := shards.foldl (fun total shard => saturatingAdd total shard.sysRoutes.len) 0
    totalRoutes := shards.foldl (fun total shard => saturatingAdd total shard.routes.len) 0
    totalEndpoints := HashMap.len (shards.foldl (fun ids shard =>
      shard.endpointCounts.keys.foldl (fun (ids : HashSet EndpointId) ep => ids.insert ep ()) ids) ∅)
    timestamp }

def component (table : RoutingTable) (sysid compid : UInt8) : Option RouteEntry :=
  (table.shardFor sysid).routes.lookup (sysid, compid)

def system (table : RoutingTable) (sysid : UInt8) : Option RouteEntry :=
  (table.shardFor sysid).sysRoutes.lookup sysid

end RoutingTable

inductive TableOp where
  | update (endpointId : EndpointId) (sysid compid : UInt8) (now clock : Instant)
  | prune (now : Instant) (maxAge : Duration)
  | setEndpointGroup (id : EndpointId) (group : String)
  | setSnifferSysids (sysids : List UInt8)

def TableOp.apply (table : RoutingTable) : TableOp → RoutingTable
  | .update endpointId sysid compid now clock => table.update endpointId sysid compid now clock
  | .prune now maxAge => table.prune now maxAge
  | .setEndpointGroup id group => table.setEndpointGroup id group
  | .setSnifferSysids sysids => table.setSnifferSysids sysids

def RoutingTable.run (table : RoutingTable) (ops : List TableOp) : RoutingTable :=
  ops.foldl TableOp.apply table

end MavRouter.Routing
