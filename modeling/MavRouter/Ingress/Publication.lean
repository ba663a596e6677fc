import MavRouter.Framing.Common
import MavRouter.Ingress.Core
import MavRouter.Shared.Runs

set_option autoImplicit false

namespace MavRouter.Ingress

open Framing Routing Runs

variable {M : Type} [Message M]

/-- A call of handle_incoming_frame, the rotation of one shard, and what the rest of the router does meanwhile. -/
inductive RouterOp (M : Type) where
  | incoming (core : EndpointCore) (frame : MavlinkFrame M) (now : Instant) (timestampUs : UInt64)
  | rotateShard (shard : Fin numShards)
  | recvRouteUpdate
  | applyRouteUpdate (clock : Instant)
  | prune (now : Instant) (maxAge : Duration)
  | subscribe
  | unsubscribe

def RouterOp.apply (ahash : List UInt8 → UInt64) (router : RouterState) : RouterOp M → RouterState
  | .incoming core frame now timestampUs => core.handleIncomingFrame ahash frame now timestampUs router
  | .rotateShard shard => { router with dedup := router.dedup.rotateShard shard }
  | .recvRouteUpdate =>
    if router.applying || decide (routeUpdateBatchSize ≤ router.batch.length) then router
    else
      match router.routeUpdates.pending with
      | [] => router
      | first :: rest =>
        { router with
          routeUpdates := { router.routeUpdates with pending := rest }
          batch := router.batch ++ [first] }
  | .applyRouteUpdate clock =>
    match router.batch with
    | [] => router
    | update :: rest =>
      { router with
        routingTable := router.routingTable.update update.endpointId update.sysId update.compId update.now clock
        batch := rest
        applying := !rest.isEmpty }
  | .prune now maxAge => { router with routingTable := router.routingTable.prune now maxAge }
  | .subscribe => { router with bus := { router.bus with receivers := router.bus.receivers + 1 } }
  | .unsubscribe => { router with bus := { router.bus with receivers := router.bus.receivers - 1 } }

-- What is on the way to the table, in the order in which it gets there.
def RouterState.inFlight (router : RouterState) : List RouteUpdate := router.batch ++ router.routeUpdates.pending

theorem recvRouteUpdate_cases (ahash : List UInt8 → UInt64) (router : RouterState) :
    ∃ queue batch, RouterOp.apply (M := M) ahash router .recvRouteUpdate =
      { router with routeUpdates := queue, batch } ∧
      batch ++ queue.pending = router.inFlight ∧ queue.closed = router.routeUpdates.closed ∧
      queue.capacity = router.routeUpdates.capacity ∧ queue.pending.length ≤ router.routeUpdates.pending.length := by
  simp only [RouterOp.apply]
  split_ifs with busy
  · exact ⟨router.routeUpdates, router.batch, rfl, rfl, rfl, rfl, Nat.le_refl _⟩
  · cases pending : router.routeUpdates.pending with
    | nil => exact ⟨router.routeUpdates, router.batch, rfl, rfl, rfl, rfl, by simp [pending]⟩
    | cons first rest => exact ⟨_, _, rfl, by simp [RouterState.inFlight, pending], rfl, rfl, Nat.le_succ _⟩

theorem recvRouteUpdate_first (ahash : List UInt8 → UInt64) (router : RouterState) (idle : router.applying = false)
    (empty : router.batch = []) (first : RouteUpdate) (rest : List RouteUpdate)
    (queued : router.routeUpdates.pending = first :: rest) :
    RouterOp.apply (M := M) ahash router .recvRouteUpdate =
      { router with routeUpdates := { router.routeUpdates with pending := rest }, batch := [first] } := by
  simp only [RouterOp.apply, idle, empty, queued]
  rfl

theorem applyRouteUpdate_cases (ahash : List UInt8 → UInt64) (router : RouterState) (clock : Instant) :
    RouterOp.apply (M := M) ahash router (.applyRouteUpdate clock) = router ∧ router.batch = [] ∨
    ∃ update rest, router.batch = update :: rest ∧
      RouterOp.apply (M := M) ahash router (.applyRouteUpdate clock) =
        { router with
          routingTable := router.routingTable.update update.endpointId update.sysId update.compId update.now clock
          batch := rest
          applying := !rest.isEmpty } := by
  simp only [RouterOp.apply]
  cases batch : router.batch with
  | nil => exact .inl ⟨rfl, rfl⟩
  | cons update rest => exact .inr ⟨update, rest, rfl, rfl⟩

def RouterState.run (ahash : List UInt8 → UInt64) (router : RouterState) (ops : List (RouterOp M)) : RouterState :=
  ops.foldl (RouterOp.apply ahash) router

theorem rotateBuckets_run (ahash : List UInt8 → UInt64) (router : RouterState)
    (enabled : router.dedup.dedupPeriod ≠ 0) :
    router.run ahash ((List.finRange numShards).map (RouterOp.rotateShard (M := M))) =
      { router with dedup := router.dedup.rotateBuckets } := by
  have each (shards : List (Fin numShards)) (router : RouterState) :
      router.run ahash (shards.map (RouterOp.rotateShard (M := M))) =
        { router with dedup := shards.foldl ConcurrentDedup.rotateShard router.dedup } := by
    induction shards generalizing router with
    | nil => rfl
    | cons shard rest ih => exact ih _
  rw [each, ConcurrentDedup.rotateBuckets, if_neg enabled]

def RouterOp.rotates (shard : Fin numShards) : RouterOp M → Bool
  | .rotateShard other => decide (other = shard)
  | _ => false

def rotations (shard : Fin numShards) (ops : List (RouterOp M)) : Nat := ops.countP (RouterOp.rotates shard)

def passesFilter (core : EndpointCore) (frame : MavlinkFrame M) : Bool :=
  core.acceptFrame frame.header (Message.messageId frame.message)

def isDuplicate (ahash : List UInt8 → UInt64) (router : RouterState) (frame : MavlinkFrame M) : Bool :=
  (router.dedup.checkAndInsert ahash frame.rawBytes).1

def Publishes (ahash : List UInt8 → UInt64) (router : RouterState) (core : EndpointCore) (frame : MavlinkFrame M)
    (now : Instant) (timestampUs : UInt64) : Prop :=
  (core.handleIncomingFrame ahash frame now timestampUs router).bus.sent =
    router.bus.sent ++ [core.routed frame timestampUs]

theorem observeRoute_frame (core : EndpointCore) (header : MavHeader) (now : Instant) (router : RouterState) :
    (core.observeRoute header now router).bus = router.bus ∧
      (core.observeRoute header now router).dedup = router.dedup := by
  unfold EndpointCore.observeRoute
  split_ifs
  · exact ⟨rfl, rfl⟩
  · exact ⟨rfl, rfl⟩
  · cases router.routeUpdates.trySend _ with
    | ok queue => exact ⟨rfl, rfl⟩
    | error reason => exact ⟨rfl, rfl⟩

theorem publishFrame_frame (core : EndpointCore) (frame : MavlinkFrame M) (timestampUs : UInt64)
    (router : RouterState) : (core.publishFrame frame timestampUs router).dedup = router.dedup ∧
      (core.publishFrame frame timestampUs router).bus.sent =
        router.bus.sent ++ if router.bus.receivers = 0 then [] else [core.routed frame timestampUs] := by
  unfold EndpointCore.publishFrame Bus.send
  split_ifs
  · simp
  · exact ⟨rfl, rfl⟩

theorem handleIncomingFrame_cases (ahash : List UInt8 → UInt64) (core : EndpointCore) (frame : MavlinkFrame M)
    (now : Instant) (timestampUs : UInt64) (router : RouterState) :
    (passesFilter core frame = false ∧ core.handleIncomingFrame ahash frame now timestampUs router = router) ∨
    (passesFilter core frame = true ∧
      (core.handleIncomingFrame ahash frame now timestampUs router).dedup =
        (router.dedup.checkAndInsert ahash frame.rawBytes).2 ∧
      (core.handleIncomingFrame ahash frame now timestampUs router).bus.sent = router.bus.sent ++
        if isDuplicate ahash router frame ∨ router.bus.receivers = 0 then []
        else [core.routed frame timestampUs]) := by
  unfold EndpointCore.handleIncomingFrame passesFilter isDuplicate
  cases accepted : core.acceptFrame frame.header (Message.messageId frame.message) with
  | false => exact .inl ⟨rfl, rfl⟩
  | true =>
    right
    cases duplicate : (router.dedup.checkAndInsert ahash frame.rawBytes).1 with
    | true => simp [duplicate]
    | false =>
      obtain ⟨sameBus, sameDedup⟩ := observeRoute_frame core frame.header now
        { router with dedup := (router.dedup.checkAndInsert ahash frame.rawBytes).2 }
      obtain ⟨kept, sent⟩ := publishFrame_frame core frame timestampUs (core.observeRoute frame.header now
        { router with dedup := (router.dedup.checkAndInsert ahash frame.rawBytes).2 })
      rw [sameDedup] at kept
      rw [sameBus] at sent
      simp [duplicate, kept, sent]

theorem publishes_iff (ahash : List UInt8 → UInt64) (router : RouterState) (core : EndpointCore)
    (frame : MavlinkFrame M) (now : Instant) (timestampUs : UInt64) :
    Publishes ahash router core frame now timestampUs ↔
      passesFilter core frame = true ∧ isDuplicate ahash router frame = false ∧ router.bus.receivers ≠ 0 := by
  unfold Publishes
  cases handleIncomingFrame_cases ahash core frame now timestampUs router with
  | inl rejected =>
    rw [rejected.2]
    simp [rejected.1]
  | inr checked =>
    rw [checked.2.2, checked.1]
    split_ifs with dropped
    · cases dropped <;> simp_all
    · simp_all

def shardEvent (ahash : List UInt8 → UInt64) (shard : Fin numShards) (router : RouterState) :
    RouterOp M → Wheel.Event UInt64
  | .incoming core frame _ _ =>
    if passesFilter core frame = true ∧ shardIdx (ahash frame.rawBytes) = shard ∧
      isDuplicate ahash router frame = false then .recorded (ahash frame.rawBytes) else .idle
  | .rotateShard other => if other = shard then .turned else .idle
  | _ => .idle

def shardEvents (ahash : List UInt8 → UInt64) (router : RouterState) (ops : List (RouterOp M))
    (shard : Fin numShards) : List (Wheel.Event UInt64) :=
  trace (shardEvent ahash shard) (RouterOp.apply ahash) router ops

variable {ahash : List UInt8 → UInt64} {period : Duration}

theorem apply_tracks (positive : period ≠ 0) (router : RouterState)
    (histories : Fin numShards → List (Wheel.Event UInt64)) (tracks : router.dedup.Tracks period histories)
    (op : RouterOp M) :
    (op.apply ahash router).dedup.Tracks period fun shard => histories shard ++ [shardEvent ahash shard router op] := by
  cases op with
  | incoming core frame now timestampUs =>
    have checked := (tracks.check positive ahash frame.rawBytes).2
    cases handleIncomingFrame_cases ahash core frame now timestampUs router with
    | inl rejected =>
      simp only [RouterOp.apply, rejected.2]
      simpa [shardEvent, rejected.1] using tracks.idle
    | inr passed =>
      simp only [RouterOp.apply, passed.2.1]
      simpa [shardEvent, passed.1, isDuplicate] using checked
  | rotateShard rotated => exact tracks.rotateShard positive rotated
  | recvRouteUpdate =>
    obtain ⟨queue, batch, received, _⟩ := recvRouteUpdate_cases (M := M) ahash router
    rw [received]
    exact tracks.idle
  | applyRouteUpdate clock =>
    rcases applyRouteUpdate_cases (M := M) ahash router clock with ⟨same, _⟩ | ⟨update, rest, _, applied⟩
    · rw [same]
      exact tracks.idle
    · rw [applied]
      exact tracks.idle
  | prune now maxAge => exact tracks.idle
  | subscribe => exact tracks.idle
  | unsubscribe => exact tracks.idle

theorem run_tracks (positive : period ≠ 0) (router : RouterState) (fresh : router.dedup = ConcurrentDedup.new period)
    (ops : List (RouterOp M)) : (router.run ahash ops).dedup.Tracks period (shardEvents ahash router ops) := by
  apply run_history (RouterOp.apply ahash) router
    (fun ops reached => reached.dedup.Tracks period (shardEvents ahash router ops))
  · rw [fresh]
    exact ConcurrentDedup.new_tracks positive
  · intro ops op ih
    have longer : shardEvents ahash router (ops ++ [op]) = fun shard =>
        shardEvents ahash router ops shard ++ [shardEvent ahash shard (router.run ahash ops) op] := by
      funext shard
      exact trace_append _ _ router ops [op]
    rw [longer]
    exact apply_tracks positive _ _ ih op

theorem run_duplicate_iff (ahash : List UInt8 → UInt64) (positive : period ≠ 0) (router : RouterState)
    (fresh : router.dedup = ConcurrentDedup.new period) (ops : List (RouterOp M)) (frame : MavlinkFrame M) :
    isDuplicate ahash (router.run ahash ops) frame = true ↔
      Wheel.Recent (bucketCount period) (shardEvents ahash router ops (shardIdx (ahash frame.rawBytes)))
        (ahash frame.rawBytes) :=
  ((run_tracks positive router fresh ops).check positive ahash frame.rawBytes).1

theorem turns_shardEvents (router : RouterState) (ops : List (RouterOp M)) (shard : Fin numShards) :
    Wheel.turns (shardEvents ahash router ops shard) = rotations shard ops := by
  apply countP_trace
  intro reached op
  cases op with
  | incoming core frame now timestampUs =>
    simp only [shardEvent]
    split_ifs <;> rfl
  | rotateShard other =>
    simp only [shardEvent, RouterOp.rotates]
    split_ifs with same
    · simp [same, Wheel.Event.isTurn]
    · simp [same, Wheel.Event.isTurn]
  | recvRouteUpdate => rfl
  | applyRouteUpdate clock => rfl
  | prune now maxAge => rfl
  | subscribe => rfl
  | unsubscribe => rfl

theorem shardEvents_append (router : RouterState) (older newer : List (RouterOp M)) (shard : Fin numShards) :
    shardEvents ahash router (older ++ newer) shard =
      shardEvents ahash router older shard ++ shardEvents ahash (router.run ahash older) newer shard :=
  trace_append _ _ router older newer

theorem recorded_accepted (router : RouterState) (ops : List (RouterOp M)) (shard : Fin numShards) (hash : UInt64)
    (age : Nat) (recorded : Wheel.RecordedAgo (shardEvents ahash router ops shard) hash age) :
    ∃ older core frame now timestampUs newer, ops = older ++ .incoming core frame now timestampUs :: newer ∧
      passesFilter core frame = true ∧ isDuplicate ahash (router.run ahash older) frame = false ∧
      ahash frame.rawBytes = hash ∧ rotations shard newer = age := by
  obtain ⟨before, after, split, count⟩ := recorded
  obtain ⟨older, op, newer, parts, event, later⟩ := trace_split _ _ router ops before after _ split
  cases op with
  | incoming core frame now timestampUs =>
    simp only [shardEvent] at event
    split_ifs at event with accepted
    cases event
    refine ⟨older, core, frame, now, timestampUs, newer, parts, accepted.1, accepted.2.2, rfl, ?_⟩
    rw [← count, ← later, ← turns_shardEvents]
    rfl
  | rotateShard other =>
    simp only [shardEvent] at event
    split_ifs at event
  | recvRouteUpdate => cases event
  | applyRouteUpdate clock => cases event
  | prune now maxAge => cases event
  | subscribe => cases event
  | unsubscribe => cases event

theorem accepted_recorded (router : RouterState) (older between : List (RouterOp M)) (core : EndpointCore)
    (frame : MavlinkFrame M) (now : Instant) (timestampUs : UInt64) (passes : passesFilter core frame = true)
    (new : isDuplicate ahash (router.run ahash older) frame = false) :
    Wheel.RecordedAgo
      (shardEvents ahash router (older ++ .incoming core frame now timestampUs :: between)
        (shardIdx (ahash frame.rawBytes)))
      (ahash frame.rawBytes) (rotations (shardIdx (ahash frame.rawBytes)) between) := by
  let after := (RouterOp.incoming core frame now timestampUs).apply ahash (router.run ahash older)
  refine ⟨shardEvents ahash router older (shardIdx (ahash frame.rawBytes)),
    shardEvents ahash after between (shardIdx (ahash frame.rawBytes)), ?_, turns_shardEvents after between _⟩
  rw [shardEvents_append]
  congr 1
  change shardEvent ahash _ (router.run ahash older) (.incoming core frame now timestampUs) :: _ = _
  rw [shardEvent, if_pos ⟨passes, rfl, new⟩]
  rfl

theorem rejected_unchanged (ahash : List UInt8 → UInt64) (router : RouterState) (core : EndpointCore)
    (frame : MavlinkFrame M) (now : Instant) (timestampUs : UInt64) (rejected : passesFilter core frame = false) :
    core.handleIncomingFrame ahash frame now timestampUs router = router := by
  cases handleIncomingFrame_cases ahash core frame now timestampUs router with
  | inl same => exact same.2
  | inr passed => simp [rejected] at passed

-- After a frame is published, its bytes are not published again before their shard has turned once around.
def NoRepeats (ahash : List UInt8 → UInt64) (period : Duration) (router : RouterState) (ops : List (RouterOp M)) :
    Prop :=
  ∀ older core frame now timestampUs between core' frame' now' timestampUs' newer,
    ops = older ++ .incoming core frame now timestampUs ::
      (between ++ .incoming core' frame' now' timestampUs' :: newer) →
    frame'.rawBytes = frame.rawBytes →
    Publishes ahash (router.run ahash older) core frame now timestampUs →
    Publishes ahash (router.run ahash (older ++ .incoming core frame now timestampUs :: between)) core' frame' now'
      timestampUs' →
    bucketCount period ≤ rotations (shardIdx (ahash frame.rawBytes)) between

-- A frame that passes its endpoint's filter is dropped only for one with the same hash that was accepted recently.
def DropsOnlyDuplicates (ahash : List UInt8 → UInt64) (period : Duration) (router : RouterState)
    (ops : List (RouterOp M)) : Prop :=
  ∀ older core frame now timestampUs newer, ops = older ++ .incoming core frame now timestampUs :: newer →
    frame.header.systemId ≠ 0 →
    core.filters.checkIncoming frame.header (Message.messageId frame.message) = true →
    ¬Publishes ahash (router.run ahash older) core frame now timestampUs →
    ∃ earlier core' frame' now' timestampUs' between,
      older = earlier ++ .incoming core' frame' now' timestampUs' :: between ∧
      ahash frame'.rawBytes = ahash frame.rawBytes ∧
      Publishes ahash (router.run ahash earlier) core' frame' now' timestampUs' ∧
      rotations (shardIdx (ahash frame.rawBytes)) between < bucketCount period

def RejectedLeaveNoTrace (ahash : List UInt8 → UInt64) (router : RouterState) (ops : List (RouterOp M)) : Prop :=
  ∀ older core frame now timestampUs newer, ops = older ++ .incoming core frame now timestampUs :: newer →
    (frame.header.systemId = 0 ∨
      core.filters.checkIncoming frame.header (Message.messageId frame.message) = false) →
    core.handleIncomingFrame ahash frame now timestampUs (router.run ahash older) = router.run ahash older ∧
    router.run ahash ops = router.run ahash (older ++ newer)

theorem run_noRepeats (ahash : List UInt8 → UInt64) (enabled : period ≠ 0) (router : RouterState)
    (fresh : router.dedup = ConcurrentDedup.new period) (ops : List (RouterOp M)) :
    NoRepeats ahash period router ops := by
  intro older core frame now timestampUs between core' frame' now' timestampUs' newer _ same first second
  obtain ⟨passes, new, _⟩ := (publishes_iff ..).mp first
  obtain ⟨_, newAgain, _⟩ := (publishes_iff ..).mp second
  by_contra soon
  have recorded := accepted_recorded router older between core frame now timestampUs passes new
  have duplicate := (run_duplicate_iff ahash enabled router fresh
    (older ++ .incoming core frame now timestampUs :: between) frame').mpr
  rw [same] at duplicate
  rw [duplicate ⟨_, Nat.lt_of_not_le soon, recorded⟩] at newAgain
  cases newAgain

theorem run_dropsOnlyDuplicates (ahash : List UInt8 → UInt64) (enabled : period ≠ 0) (router : RouterState)
    (fresh : router.dedup = ConcurrentDedup.new period) (ops : List (RouterOp M))
    (subscribed : ∀ reached, reached <+: ops → 0 < (router.run ahash reached).bus.receivers) :
    DropsOnlyDuplicates ahash period router ops := by
  intro older core frame now timestampUs newer split system passes dropped
  have accepted : passesFilter core frame = true := by
    simpa [passesFilter, EndpointCore.acceptFrame, system] using passes
  have received := subscribed older ⟨_, split.symm⟩
  have duplicate : isDuplicate ahash (router.run ahash older) frame = true := by
    by_contra new
    exact dropped ((publishes_iff ..).mpr ⟨accepted, by simpa using new, by omega⟩)
  obtain ⟨age, recent, recorded⟩ := (run_duplicate_iff ahash enabled router fresh older frame).mp duplicate
  obtain ⟨earlier, core', frame', now', timestampUs', between, parts, passes', new, hash, count⟩ :=
    recorded_accepted router older _ _ age recorded
  have receivedThen := subscribed earlier ⟨_, by rw [split, parts, List.append_assoc]⟩
  have published : Publishes ahash (router.run ahash earlier) core' frame' now' timestampUs' :=
    (publishes_iff ..).mpr ⟨passes', new, by omega⟩
  exact ⟨earlier, core', frame', now', timestampUs', between, parts, hash, published, by rw [count]; exact recent⟩

theorem run_rejectedLeaveNoTrace (ahash : List UInt8 → UInt64) (router : RouterState) (ops : List (RouterOp M)) :
    RejectedLeaveNoTrace ahash router ops := by
  intro older core frame now timestampUs newer split rejected
  have refused : passesFilter core frame = false := by
    cases rejected with
    | inl placeholder => simp [passesFilter, EndpointCore.acceptFrame, placeholder]
    | inr filtered => simp [passesFilter, EndpointCore.acceptFrame, filtered]
  have unchanged := rejected_unchanged ahash (router.run ahash older) core frame now timestampUs refused
  refine ⟨unchanged, ?_⟩
  rw [split, RouterState.run, RouterState.run, List.foldl_append, List.foldl_append, List.foldl_cons]
  congr 1

theorem published_once (ahash : List UInt8 → UInt64) (period : Duration) (enabled : period ≠ 0) (router : RouterState)
    (fresh : router.dedup = ConcurrentDedup.new period) (ops : List (RouterOp M))
    (subscribed : ∀ reached, reached <+: ops → 0 < (router.run ahash reached).bus.receivers) :
    NoRepeats ahash period router ops ∧ DropsOnlyDuplicates ahash period router ops ∧
      RejectedLeaveNoTrace ahash router ops :=
  ⟨run_noRepeats ahash enabled router fresh ops, run_dropsOnlyDuplicates ahash enabled router fresh ops subscribed,
    run_rejectedLeaveNoTrace ahash router ops⟩

instance : Message CommonMessage where
  messageId
    | .heartbeat .. => 0
    | .fileTransferProtocol .. => 110
  kind
    | .heartbeat .. => .other
    | .fileTransferProtocol .. => .fileTransferProtocol
  targetSystem
    | .heartbeat .. => 0
    | .fileTransferProtocol _ targetSystem _ _ => targetSystem
  targetComponent
    | .heartbeat .. => 0
    | .fileTransferProtocol _ _ targetComponent _ => targetComponent
  gcsSystemId _ := 0

def sampleHash (payload : List UInt8) : UInt64 := payload.foldl (fun hash byte => hash * 31 + byte.toUInt64) 7

def sampleRouter : RouterState where
  bus := ⟨[], 1⟩
  routingTable := RoutingTable.new
  routeUpdates := ⟨[], 1000, false⟩
  dedup := ConcurrentDedup.new (Duration.fromSecs 1)
  stats _ := ⟨0, 0, 0, 0, 0, 0⟩

def sampleFrame : MavlinkFrame CommonMessage := ⟨⟨1, 1, 0⟩, heartbeatMessage, .v2, heartbeatV2.bytes⟩

def sampleOps : List (RouterOp CommonMessage) :=
  [.incoming ⟨⟨0⟩, { blockMsgIdIn := (∅ : Maps.HashSet UInt32).insert 0 () }, true, 0⟩ sampleFrame 0 1,
    .incoming ⟨⟨1⟩, {}, true, 1⟩ sampleFrame 0 2, .rotateShard ⟨3, by decide⟩,
      .incoming ⟨⟨2⟩, {}, true, 2⟩ sampleFrame 0 3]

example : ((sampleRouter.run sampleHash sampleOps).bus.sent.map RoutedMessage.sourceId) = [⟨1⟩] := by decide +kernel

theorem published_once_heartbeat :
    NoRepeats sampleHash (Duration.fromSecs 1) sampleRouter sampleOps ∧
      DropsOnlyDuplicates sampleHash (Duration.fromSecs 1) sampleRouter sampleOps ∧
      RejectedLeaveNoTrace sampleHash sampleRouter sampleOps :=
  published_once sampleHash (Duration.fromSecs 1) (by decide) sampleRouter rfl sampleOps (by
    have received : ∀ reached ∈ sampleOps.inits, 0 < (sampleRouter.run sampleHash reached).bus.receivers := by
      decide +kernel
    intro reached inside
    exact received reached ((List.mem_inits ..).mpr inside))

end MavRouter.Ingress
