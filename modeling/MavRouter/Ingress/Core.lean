import MavRouter.Framing.StreamParser
import MavRouter.Ingress.Dedup
import MavRouter.Ingress.Target
import MavRouter.Routing.Table

set_option autoImplicit false

namespace MavRouter.Ingress

open Maps Framing Routing

structure EndpointFilters where
  allowMsgIdOut : HashSet UInt32 := ∅
  blockMsgIdOut : HashSet UInt32 := ∅
  allowSrcCompOut : HashSet UInt8 := ∅
  blockSrcCompOut : HashSet UInt8 := ∅
  allowSrcSysOut : HashSet UInt8 := ∅
  blockSrcSysOut : HashSet UInt8 := ∅
  allowMsgIdIn : HashSet UInt32 := ∅
  blockMsgIdIn : HashSet UInt32 := ∅
  allowSrcCompIn : HashSet UInt8 := ∅
  blockSrcCompIn : HashSet UInt8 := ∅
  allowSrcSysIn : HashSet UInt8 := ∅
  blockSrcSysIn : HashSet UInt8 := ∅

-- The block list wins over the allow list, and an empty allow list allows everything.
def listed {K : Type} [DecidableEq K] (allow block : HashSet K) (k : K) : Bool :=
  (allow.entries.isEmpty || decide (k ∈ allow)) && !decide (k ∈ block)

def EndpointFilters.check (header : MavHeader) (msgId : UInt32) (allowMsg blockMsg : HashSet UInt32)
    (allowComp blockComp allowSys blockSys : HashSet UInt8) : Bool :=
  if !listed allowMsg blockMsg msgId then false
  else if !listed allowComp blockComp header.componentId then false
  else if !listed allowSys blockSys header.systemId then false
  else true

def EndpointFilters.checkIncoming (filters : EndpointFilters) (header : MavHeader) (msgId : UInt32) : Bool :=
  EndpointFilters.check header msgId filters.allowMsgIdIn filters.blockMsgIdIn filters.allowSrcCompIn
    filters.blockSrcCompIn filters.allowSrcSysIn filters.blockSrcSysIn

def EndpointFilters.checkOutgoing (filters : EndpointFilters) (header : MavHeader) (msgId : UInt32) : Bool :=
  EndpointFilters.check header msgId filters.allowMsgIdOut filters.blockMsgIdOut filters.allowSrcCompOut
    filters.blockSrcCompOut filters.allowSrcSysOut filters.blockSrcSysOut

structure RoutedMessage where
  sourceId : EndpointId
  header : MavHeader
  messageId : UInt32
  version : MavlinkVersion
  timestampUs : UInt64
  serializedBytes : List UInt8
  target : MessageTarget
  deriving DecidableEq, Repr

/-- The broadcast channel: what was sent through it, and how many receivers there are. -/
structure Bus where
  sent : List RoutedMessage
  receivers : Nat
  deriving DecidableEq, Repr

def Bus.send (bus : Bus) (message : RoutedMessage) : Option Bus :=
  if bus.receivers = 0 then none else some { bus with sent := bus.sent ++ [message] }

structure RouteUpdate where
  endpointId : EndpointId
  sysId : UInt8
  compId : UInt8
  now : Instant
  deriving DecidableEq, Repr

def routeUpdateQueueCapacity : Nat := 4096
def routeUpdateBatchSize : Nat := 256

structure RouteQueue where
  pending : List RouteUpdate
  capacity : Nat
  closed : Bool
  deriving DecidableEq, Repr

inductive TrySendError where
  | full
  | closed

def RouteQueue.trySend (queue : RouteQueue) (update : RouteUpdate) : Except TrySendError RouteQueue :=
  if queue.closed then .error .closed
  else if queue.capacity ≤ queue.pending.length then .error .full
  else .ok { queue with pending := queue.pending ++ [update] }

structure EndpointStats where
  msgsIn : UInt64
  msgsOut : UInt64
  bytesIn : UInt64
  bytesOut : UInt64
  errors : UInt64
  busLagged : UInt64
  deriving DecidableEq, Repr

def EndpointStats.recordOutgoing (stats : EndpointStats) (bytes : UInt64) : EndpointStats :=
  { stats with msgsOut := stats.msgsOut + 1, bytesOut := stats.bytesOut + bytes }

structure EndpointCore where
  id : EndpointId
  filters : EndpointFilters
  updateRouting : Bool
  stats : Nat

structure RouterState where
  bus : Bus
  routingTable : RoutingTable
  routeUpdates : RouteQueue
  -- What the updater has received and not applied yet; once it has begun to apply, it receives nothing more.
  batch : List RouteUpdate := []
  applying : Bool := false
  dedup : ConcurrentDedup
  stats : Nat → EndpointStats

namespace EndpointCore

variable {M : Type} [Message M]

def acceptFrame (core : EndpointCore) (header : MavHeader) (messageId : UInt32) : Bool :=
  if header.systemId = 0 then false else core.filters.checkIncoming header messageId

def observeRoute (core : EndpointCore) (header : MavHeader) (now : Instant) (router : RouterState) : RouterState :=
  if !core.updateRouting then router
  else if !router.routingTable.needsUpdateForEndpoint core.id header.systemId header.componentId now then router
  else
    match router.routeUpdates.trySend ⟨core.id, header.systemId, header.componentId, now⟩ with
    | .ok queue => { router with routeUpdates := queue }
    -- Full or closed: the observation is dropped.
    | .error _ => router

def routed (core : EndpointCore) (frame : MavlinkFrame M) (timestampUs : UInt64) : RoutedMessage where
  sourceId := core.id
  header := frame.header
  messageId := Message.messageId frame.message
  version := frame.version
  timestampUs := timestampUs
  serializedBytes := frame.rawBytes
  target := extractTarget frame.message

def publishFrame (core : EndpointCore) (frame : MavlinkFrame M) (timestampUs : UInt64) (router : RouterState) :
    RouterState :=
  match router.bus.send (core.routed frame timestampUs) with
  | none => router
  | some bus =>
    let stats := router.stats core.stats
    { router with
      bus := bus
      stats := Function.update router.stats core.stats { stats with
        msgsIn := stats.msgsIn + 1
        bytesIn := stats.bytesIn + frame.rawBytes.length.toUInt64 } }

-- The two clock readings are those of observe_route and of publish_frame.
def handleIncomingFrame (ahash : List UInt8 → UInt64) (core : EndpointCore) (frame : MavlinkFrame M) (now : Instant)
    (timestampUs : UInt64) (router : RouterState) : RouterState :=
  if !core.acceptFrame frame.header (Message.messageId frame.message) then router
  else
    let checked := router.dedup.checkAndInsert ahash frame.rawBytes
    let router := { router with dedup := checked.2 }
    if checked.1 then router
    else core.publishFrame frame timestampUs (core.observeRoute frame.header now router)

-- A target of system 0 is a broadcast and needs no route.
def checkOutgoing (core : EndpointCore) (routingTable : RoutingTable) (msg : RoutedMessage) : Bool :=
  if msg.sourceId = core.id then false
  else if !core.filters.checkOutgoing msg.header msg.messageId then false
  else if msg.target.systemId = 0 then true
  else routingTable.shouldSend core.id msg.target.systemId msg.target.componentId

end EndpointCore

end MavRouter.Ingress
