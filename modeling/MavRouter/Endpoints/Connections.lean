import MavRouter.Ingress.Publication
import MavRouter.Orchestration.Registration

set_option autoImplicit false

namespace MavRouter.Endpoints

open Framing Ingress Orchestration Routing

variable {M : Type} [Message M]

def maxTcpClients : Nat := 100

def childForClient (core : EndpointCore) (clientId stats : Nat) : EndpointCore :=
  { core with id := ⟨clientId⟩, updateRouting := true, stats }

def serves : Transport → Bool
  | .tcp _ .server => true
  | _ => false

structure Connection where
  endpoint : Nat
  core : EndpointCore

structure Links where
  router : RouterState
  -- Whose connections the updates in flight came from, in the same order; the code does not keep this.
  senders : List Nat
  connections : List Connection
  nextTcpClientId : Nat

inductive LinkStep (M : Type) where
  | connect (endpoint : Nat)
  | disconnect (connection : Nat)
  | incoming (connection : Nat) (frame : MavlinkFrame M) (now : Instant) (timestampUs : UInt64)
  | rotateShard (shard : Fin numShards)
  | recvRouteUpdate
  | applyRouteUpdate (clock : Instant)
  | prune (now : Instant) (maxAge : Duration)

-- The context and the transport of an endpoint; the implicit server comes behind the configured ones.
def spawnedEndpoint (config : Config) (endpoint : Nat) : Option (EndpointSpawnContext × Transport) :=
  (configuredEndpoints config ++ (implicitServer config).toList)[endpoint]?.bind fun spawned =>
    match spawned.1.task with
    | .endpoint ctx transport => some (ctx, transport)
    | _ => none

namespace Links

def start (config : Config) (nextTcpClientId : Nat) : Links where
  router :=
    { bus := { sent := [], receivers := 0 }
      routingTable := registeredTable config
      routeUpdates := { pending := [], capacity := routeUpdateQueueCapacity, closed := false }
      dedup := ConcurrentDedup.new (Duration.fromMillis (config.general.dedupPeriodMs.getD 0).toNat)
      stats := fun _ => ⟨0, 0, 0, 0, 0, 0⟩ }
  senders := []
  connections := []
  nextTcpClientId := nextTcpClientId

variable (config : Config) (ahash : List UInt8 → UInt64)

def liveOf (links : Links) (endpoint : Nat) : List Connection :=
  links.connections.filter fun connection => decide (connection.endpoint = endpoint)

def connect (links : Links) (endpoint : Nat) : Links :=
  match spawnedEndpoint config endpoint with
  | none => links
  | some (ctx, transport) =>
    let core := ctx.endpointCore true
    if serves transport then
      if maxTcpClients ≤ (links.liveOf endpoint).length then links
      else
        let clientId := links.nextTcpClientId
        { links with
          connections := links.connections ++
            [⟨endpoint, childForClient core clientId (config.endpoint.length + 1 + clientId)⟩]
          nextTcpClientId := (clientId + 1) % (usizeMax + 1) }
    else if (links.liveOf endpoint).isEmpty then
      { links with connections := links.connections ++ [⟨endpoint, core⟩] }
    else links

def disconnect (links : Links) (connection : Nat) : Links :=
  { links with connections := links.connections.eraseIdx connection }

def incoming (links : Links) (connection : Nat) (frame : MavlinkFrame M) (now : Instant) (timestampUs : UInt64) :
    Links :=
  match links.connections[connection]? with
  | none => links
  | some conn =>
    let router := conn.core.handleIncomingFrame ahash frame now timestampUs links.router
    let sent := router.routeUpdates.pending.length - links.router.routeUpdates.pending.length
    { links with router, senders := links.senders ++ List.replicate sent conn.endpoint }

def step (links : Links) : LinkStep M → Links
  | .connect endpoint => links.connect config endpoint
  | .disconnect connection => links.disconnect connection
  | .incoming connection frame now timestampUs => links.incoming ahash connection frame now timestampUs
  | .rotateShard shard => { links with router := RouterOp.apply (M := M) ahash links.router (.rotateShard shard) }
  | .recvRouteUpdate => { links with router := RouterOp.apply (M := M) ahash links.router .recvRouteUpdate }
  | .applyRouteUpdate clock =>
    { links with
      router := RouterOp.apply (M := M) ahash links.router (.applyRouteUpdate clock)
      senders := if links.router.batch.isEmpty then links.senders else links.senders.tail }
  | .prune now maxAge => { links with router := RouterOp.apply (M := M) ahash links.router (.prune now maxAge) }

def run (links : Links) (steps : List (LinkStep M)) : Links := steps.foldl (step config ahash) links

end Links

theorem start_spawned (bucketBytes nextTcpClientId : Nat) (config : Config) (orchestrated : OrchestratedRouter)
    (spawned : spawnAll bucketBytes config = .ok orchestrated) :
    let router := (Links.start config nextTcpClientId).router
    router.bus = orchestrated.bus ∧ router.routingTable = orchestrated.routingTable ∧
      router.dedup = orchestrated.dedup := by
  obtain ⟨bus, created, dedup, allocated, rfl⟩ := (spawnAll_ok bucketBytes config orchestrated).mp spawned
  rw [createBus, broadcastChannel] at created
  split_ifs at created
  exact ⟨Except.ok.inj created, rfl, ((newDedup_ok _ _ _).mp allocated).2.symm⟩

theorem spawnedEndpoint_configured (config : Config) (endpoint : Nat) (cfg : EndpointConfig)
    (given : config.endpoint[endpoint]? = some cfg) :
    ∃ ctx, spawnedEndpoint config endpoint = some (ctx, transport config.general.routingTableTtlSecs cfg) ∧
      ctx.id = endpoint ∧ ctx.filters = cfg.filters := by
  obtain ⟨inside, _⟩ := List.getElem?_eq_some_iff.mp given
  have found : (configuredEndpoints config ++ (implicitServer config).toList)[endpoint]? =
      (configuredEndpoints config)[endpoint]? := by
    apply List.getElem?_append_left
    rw [configuredEndpoints, List.length_mapIdx]
    exact inside
  rw [spawnedEndpoint, found, configuredEndpoints, List.getElem?_mapIdx, given]
  exact ⟨_, rfl, rfl, rfl⟩

def passes (filters : EndpointFilters) (frame : MavlinkFrame M) : Prop :=
  frame.header.systemId ≠ 0 ∧ filters.checkIncoming frame.header (Message.messageId frame.message) = true

theorem acceptFrame_iff (core : EndpointCore) (frame : MavlinkFrame M) :
    core.acceptFrame frame.header (Message.messageId frame.message) = true ↔ passes core.filters frame := by
  rw [EndpointCore.acceptFrame, passes]
  split_ifs with placeholder <;> simp [placeholder]

def observed (core : EndpointCore) (frame : MavlinkFrame M) (now : Instant) : RouteUpdate :=
  ⟨core.id, frame.header.systemId, frame.header.componentId, now⟩

theorem publishFrame_routes (core : EndpointCore) (frame : MavlinkFrame M) (timestampUs : UInt64)
    (router : RouterState) :
    (core.publishFrame frame timestampUs router).routingTable = router.routingTable ∧
      (core.publishFrame frame timestampUs router).routeUpdates = router.routeUpdates ∧
      (core.publishFrame frame timestampUs router).batch = router.batch ∧
      (core.publishFrame frame timestampUs router).applying = router.applying := by
  rw [EndpointCore.publishFrame]
  cases router.bus.send _ <;> exact ⟨rfl, rfl, rfl, rfl⟩

theorem handleIncomingFrame_routes (ahash : List UInt8 → UInt64) (core : EndpointCore) (frame : MavlinkFrame M)
    (now : Instant) (timestampUs : UInt64) (router : RouterState) :
    let later := core.handleIncomingFrame ahash frame now timestampUs router
    later.routingTable = router.routingTable ∧ later.batch = router.batch ∧ later.applying = router.applying ∧
      (later.routeUpdates = router.routeUpdates ∨
        passes core.filters frame ∧ later.routeUpdates =
          { router.routeUpdates with pending := router.routeUpdates.pending ++ [observed core frame now] }) := by
  simp only [EndpointCore.handleIncomingFrame]
  split_ifs with refused duplicate
  · exact ⟨rfl, rfl, rfl, .inl rfl⟩
  · exact ⟨rfl, rfl, rfl, .inl rfl⟩
  · have accepted : passes core.filters frame := (acceptFrame_iff core frame).mp (by simpa using refused)
    obtain ⟨table, queue, batch, applying⟩ := publishFrame_routes core frame timestampUs
      (core.observeRoute frame.header now { router with dedup := (router.dedup.checkAndInsert ahash frame.rawBytes).2 })
    rw [table, queue, batch, applying, EndpointCore.observeRoute]
    split_ifs with silent known
    · exact ⟨rfl, rfl, rfl, .inl rfl⟩
    · exact ⟨rfl, rfl, rfl, .inl rfl⟩
    · rw [RouteQueue.trySend]
      split_ifs
      · exact ⟨rfl, rfl, rfl, .inl rfl⟩
      · exact ⟨rfl, rfl, rfl, .inl rfl⟩
      · exact ⟨rfl, rfl, rfl, .inr ⟨accepted, rfl⟩⟩

theorem handleIncomingFrame_observes (ahash : List UInt8 → UInt64) (core : EndpointCore) (frame : MavlinkFrame M)
    (now : Instant) (timestampUs : UInt64) (router : RouterState) (accepted : passes core.filters frame)
    (new : (router.dedup.checkAndInsert ahash frame.rawBytes).1 = false) (learns : core.updateRouting = true)
    (unknown : router.routingTable.system frame.header.systemId = none) (opened : router.routeUpdates.closed = false)
    (room : router.routeUpdates.pending.length < router.routeUpdates.capacity) :
    (core.handleIncomingFrame ahash frame now timestampUs router).routeUpdates =
      { router.routeUpdates with pending := router.routeUpdates.pending ++ [observed core frame now] } := by
  have passed := (acceptFrame_iff core frame).mpr accepted
  have needs : router.routingTable.needsUpdateForEndpoint core.id frame.header.systemId frame.header.componentId now =
      true := by
    rw [RoutingTable.system] at unknown
    simp only [RoutingTable.needsUpdateForEndpoint, unknown, RoutingTable.entryNeedsUpdate, Bool.or_true]
  simp only [EndpointCore.handleIncomingFrame, passed, Bool.not_true, Bool.false_eq_true, if_false, new,
    (publishFrame_routes ..).2.1, EndpointCore.observeRoute, learns, needs, RouteQueue.trySend, opened]
  rw [if_neg (by omega)]
  rfl

end MavRouter.Endpoints
