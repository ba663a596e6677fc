import MavRouter.Network.Forwarding

set_option autoImplicit false

namespace MavRouter.Network

open Framing Ingress Routing Runs
open Broadcast (ring)

variable {M : Type} [Message M] {ahash : List UInt8 → UInt64} {channel : Broadcast.Channel RoutedMessage}

def Step.routerOps (system : System) : Step M → List (RouterOp M)
  | .connect _ => [.subscribe]
  | .disconnect i => if (system.link i).isSome then [.unsubscribe] else []
  | .incoming i frame now timestampUs =>
    match system.link i with
    | none => []
    | some link => [.incoming link.core frame now timestampUs]
  | .recvNextBusMsg _ _ => []
  | .rotateShard shard => [.rotateShard shard]
  | .recvRouteUpdate => [.recvRouteUpdate]
  | .applyRouteUpdate clock => [.applyRouteUpdate clock]
  | .prune now maxAge => [.prune now maxAge]
  | .subscribe => [.subscribe]
  | .unsubscribe => [.unsubscribe]

def routerOps (ahash : List UInt8 → UInt64) (system : System) (steps : List (Step M)) : List (RouterOp M) :=
  (trace (fun system op => op.routerOps system) (System.step ahash) system steps).flatten

-- The counters are the only part of the router that recv touches, and nothing depends on them.
def uncounted (router : RouterState) : RouterState := { router with stats := fun _ => ⟨0, 0, 0, 0, 0, 0⟩ }

theorem publishFrame_uncounted (core : EndpointCore) (frame : MavlinkFrame M) (timestampUs : UInt64)
    (router : RouterState) : uncounted (core.publishFrame frame timestampUs (uncounted router)) =
      uncounted (core.publishFrame frame timestampUs router) := by
  simp only [EndpointCore.publishFrame, uncounted]
  cases router.bus.send (core.routed frame timestampUs) <;> rfl

theorem observeRoute_uncounted (core : EndpointCore) (header : MavHeader) (now : Instant) (router : RouterState) :
    core.observeRoute header now (uncounted router) = uncounted (core.observeRoute header now router) := by
  simp only [EndpointCore.observeRoute, uncounted]
  by_cases learns : core.updateRouting = true
  · by_cases needed :
        router.routingTable.needsUpdateForEndpoint core.id header.systemId header.componentId now = true
    · cases router.routeUpdates.trySend ⟨core.id, header.systemId, header.componentId, now⟩ <;> simp [learns, needed]
    · simp [learns, needed]
  · simp [learns]

theorem apply_uncounted (router : RouterState) (op : RouterOp M) :
    uncounted (op.apply ahash (uncounted router)) = uncounted (op.apply ahash router) := by
  cases op with
  | incoming core frame now timestampUs =>
    simp only [RouterOp.apply, EndpointCore.handleIncomingFrame]
    split_ifs with refused duplicate duplicate' duplicate'
    · rfl
    · rfl
    · exact absurd duplicate duplicate'
    · exact absurd duplicate' duplicate
    · have checked : { uncounted router with dedup := (router.dedup.checkAndInsert ahash frame.rawBytes).2 } =
          uncounted { router with dedup := (router.dedup.checkAndInsert ahash frame.rawBytes).2 } := rfl
      have dedup : (uncounted router).dedup = router.dedup := rfl
      rw [dedup, checked, observeRoute_uncounted, publishFrame_uncounted]
  | recvRouteUpdate =>
    have queue : (uncounted router).routeUpdates = router.routeUpdates := rfl
    have batch : (uncounted router).batch = router.batch := rfl
    have applying : (uncounted router).applying = router.applying := rfl
    simp only [RouterOp.apply, queue, batch, applying]
    split_ifs
    · rfl
    · cases router.routeUpdates.pending <;> rfl
  | applyRouteUpdate clock =>
    have batch : (uncounted router).batch = router.batch := rfl
    simp only [RouterOp.apply, batch]
    cases router.batch <;> rfl
  | _ => rfl

theorem run_uncounted (router other : RouterState) (same : uncounted router = uncounted other)
    (ops : List (RouterOp M)) : uncounted (router.run ahash ops) = uncounted (other.run ahash ops) := by
  induction ops generalizing router other with
  | nil => exact same
  | cons op rest ih =>
    apply ih (op.apply ahash router) (op.apply ahash other)
    rw [← apply_uncounted, same, apply_uncounted]

theorem step_projects (system : System) (op : Step M) :
    uncounted (system.step ahash op).router = uncounted (system.router.run ahash (op.routerOps system)) := by
  cases op with
  | disconnect i =>
    simp only [System.step, System.disconnect, Step.routerOps]
    cases system.link i <;> rfl
  | incoming i frame now timestampUs =>
    simp only [System.step, System.incoming, Step.routerOps]
    cases system.link i <;> rfl
  | recvNextBusMsg i cancelled =>
    simp only [System.step, System.recvNextBusMsg, Step.routerOps]
    cases system.link i <;> rfl
  | _ => rfl

theorem routerOps_cons (system : System) (op : Step M) (rest : List (Step M)) :
    routerOps ahash system (op :: rest) = op.routerOps system ++ routerOps ahash (system.step ahash op) rest := rfl

theorem run_projects (system : System) (steps : List (Step M)) :
    uncounted (system.run ahash steps).router = uncounted (system.router.run ahash (routerOps ahash system steps)) := by
  induction steps generalizing system with
  | nil => rfl
  | cons op rest ih =>
    have later : uncounted (system.run ahash (op :: rest)).router = _ := ih (system.step ahash op)
    rw [later, routerOps_cons, RouterState.run, RouterState.run, List.foldl_append]
    exact run_uncounted _ _ (step_projects system op) _

theorem routerOps_append (system : System) (older newer : List (Step M)) :
    routerOps ahash system (older ++ newer) =
      routerOps ahash system older ++ routerOps ahash (system.run ahash older) newer := by
  induction older generalizing system with
  | nil => rfl
  | cons op rest ih =>
    rw [List.cons_append, routerOps_cons, routerOps_cons, ih, List.append_assoc]
    rfl

theorem publishes_uncounted (router other : RouterState) (same : uncounted router = uncounted other)
    (core : EndpointCore) (frame : MavlinkFrame M) (now : Instant) (timestampUs : UInt64) :
    Publishes ahash router core frame now timestampUs ↔ Publishes ahash other core frame now timestampUs := by
  have dedup : router.dedup = other.dedup := (congrArg RouterState.dedup same :)
  have bus : router.bus = other.bus := (congrArg RouterState.bus same :)
  simp only [publishes_iff, isDuplicate, dedup, bus]

def Step.rotates (shard : Fin numShards) : Step M → Bool
  | .rotateShard other => decide (other = shard)
  | _ => false

theorem rotations_routerOps (ahash : List UInt8 → UInt64) (shard : Fin numShards) (system : System)
    (steps : List (Step M)) :
    rotations shard (routerOps ahash system steps) = steps.countP (Step.rotates shard) := by
  induction steps generalizing system with
  | nil => rfl
  | cons op rest ih =>
    rw [routerOps_cons, rotations, List.countP_append, List.countP_cons, Nat.add_comm]
    congr 1
    · exact ih (system.step ahash op)
    · cases op with
      | disconnect i =>
        simp only [Step.routerOps, Step.rotates]
        cases (system.link i).isSome <;> simp [RouterOp.rotates]
      | incoming i frame now timestampUs =>
        simp only [Step.routerOps, Step.rotates]
        cases system.link i <;> simp [RouterOp.rotates]
      | _ => simp [Step.routerOps, RouterOp.rotates, Step.rotates]

theorem run_sent_grows (ahash : List UInt8 → UInt64) (system : System) (steps : List (Step M)) :
    system.sent <+: (system.run ahash steps).sent := by
  induction steps generalizing system with
  | nil => exact List.prefix_refl _
  | cons op rest ih =>
    obtain ⟨more, sent, _⟩ := (step_moves ahash system op).sent
    exact (sent ▸ List.prefix_append _ _ : system.sent <+: (system.step ahash op).sent).trans
      (ih (system.step ahash op))

theorem taken_place {system : System} {link : Link} (sound : Sound system) (member : link ∈ system.links)
    (past future : List Taken) (taken : Taken) (msg : RoutedMessage) (split : link.taken = past ++ taken :: future)
    (message : taken.reception = .message msg) :
    system.sent[link.since + Broadcast.width (past.map Taken.reception)]? = some msg := by
  have found := (sound link member).follows.place (past.map Taken.reception) (future.map Taken.reception) msg
    (by simp [receptions, split, message])
  rw [List.getElem?_drop, List.getElem?_take] at found
  split_ifs at found
  exact found

theorem published_order (ahash : List UInt8 → UInt64) (system : System)
    (before before' after after' : List (Step M)) (op op' : Step M)
    (same : before ++ op :: after = before' ++ op' :: after')
    (earlier : (system.run ahash before).sent.length < (system.run ahash before').sent.length) :
    ∃ between, before' = before ++ op :: between := by
  rcases List.append_eq_append_iff.mp same with ⟨more, rfl, rest⟩ | ⟨more, rfl, _⟩
  · cases more with
    | nil => simp at earlier
    | cons first between =>
      rw [List.cons_append, List.cons.injEq] at rest
      exact ⟨between, by rw [rest.1]⟩
  · have grown := (run_sent_grows ahash (system.run ahash before') more).length_le
    rw [← System.run_append] at grown
    omega

theorem incoming_routerOps (system : System) (i : Nat) (link : Link) (opened : system.link i = some link)
    (frame : MavlinkFrame M) (now : Instant) (timestampUs : UInt64) (rest : List (Step M)) :
    routerOps ahash system (.incoming i frame now timestampUs :: rest) =
      .incoming link.core frame now timestampUs ::
        routerOps ahash (system.step ahash (.incoming i frame now timestampUs)) rest := by
  rw [routerOps_cons, Step.routerOps, opened, List.singleton_append]

theorem publications_apart {dedupPeriod : Duration} (enabled : dedupPeriod ≠ 0) (system : System)
    (fresh : system.router.dedup = ConcurrentDedup.new dedupPeriod) (before between : List (Step M)) (i : Nat)
    (frame frame' : MavlinkFrame M) (now now' : Instant) (timestampUs timestampUs' : UInt64) (link link' : Link)
    (opened : (system.run ahash before).link i = some link)
    (same : frame'.rawBytes = frame.rawBytes)
    (publishes : Publishes ahash (system.run ahash before).router link.core frame now timestampUs)
    (publishes' : Publishes ahash (system.run ahash (before ++ .incoming i frame now timestampUs :: between)).router
      link'.core frame' now' timestampUs') :
    bucketCount dedupPeriod ≤ between.countP (Step.rotates (shardIdx (ahash frame.rawBytes))) := by
  have calls : routerOps ahash system (before ++ .incoming i frame now timestampUs :: between) =
      routerOps ahash system before ++ .incoming link.core frame now timestampUs ::
        routerOps ahash ((system.run ahash before).step ahash (.incoming i frame now timestampUs)) between := by
    rw [routerOps_append, incoming_routerOps _ i link opened]
  rw [publishes_uncounted _ _ (run_projects system before)] at publishes
  rw [publishes_uncounted _ _ (run_projects system _), calls] at publishes'
  rw [← rotations_routerOps ahash]
  exact run_noRepeats ahash enabled system.router fresh
    (_ ++ .incoming link.core frame now timestampUs :: (_ ++ [.incoming link'.core frame' now' timestampUs']))
    _ _ _ _ _ _ _ _ _ _ [] rfl same publishes publishes'

/-- The two messages were published by two calls with all turns of the dedup wheel between them. -/
def Apart (ahash : List UInt8 → UInt64) (dedupPeriod : Duration) (system : System) (steps : List (Step M))
    (msg msg' : RoutedMessage) : Prop :=
  ∃ before i frame now timestampUs between i' frame' now' timestampUs' after link link',
    steps = before ++ .incoming i frame now timestampUs :: (between ++ .incoming i' frame' now' timestampUs' :: after) ∧
    (system.run ahash before).link i = some link ∧
    (system.run ahash (before ++ .incoming i frame now timestampUs :: between)).link i' = some link' ∧
    Publishes ahash (system.run ahash before).router link.core frame now timestampUs ∧
    Publishes ahash (system.run ahash (before ++ .incoming i frame now timestampUs :: between)).router link'.core frame'
      now' timestampUs' ∧
    msg = link.core.routed frame timestampUs ∧ msg' = link'.core.routed frame' timestampUs' ∧
    bucketCount dedupPeriod ≤ between.countP (Step.rotates (shardIdx (ahash msg.serializedBytes)))

theorem places_apart (ahash : List UInt8 → UInt64) {dedupPeriod : Duration} (enabled : dedupPeriod ≠ 0)
    (system : System)
    (quiet : system.sent = []) (fresh : system.router.dedup = ConcurrentDedup.new dedupPeriod) (steps : List (Step M))
    (place place' : Nat) (earlier : place < place') (msg msg' : RoutedMessage)
    (found : (system.run ahash steps).sent[place]? = some msg)
    (found' : (system.run ahash steps).sent[place']? = some msg') (same : msg'.serializedBytes = msg.serializedBytes) :
    Apart ahash dedupPeriod system steps msg msg' := by
  obtain ⟨before, i, frame, now, timestampUs, after, link, parts, opened, publishes, here, rfl⟩ :=
    run_published quiet steps place msg found
  obtain ⟨before', i', frame', now', timestampUs', after', link', parts', opened', publishes', there, rfl⟩ :=
    run_published quiet steps place' msg' found'
  obtain ⟨between, rfl⟩ := published_order ahash system before before' after after' _ _ (parts ▸ parts')
    (by omega)
  refine ⟨before, i, frame, now, timestampUs, between, i', frame', now', timestampUs', after', link, link',
    by simp [parts'], opened, opened', publishes, publishes', rfl, rfl, ?_⟩
  exact publications_apart enabled system fresh before between i frame frame' now now' timestampUs timestampUs' link
    link' opened same publishes publishes'

theorem repeats_a_window_apart (ahash : List UInt8 → UInt64) (routingTable : RoutingTable) (dedupPeriod : Duration)
    (enabled : dedupPeriod ≠ 0) (busCapacity : Nat) (steps : List (Step M)) (link : Link)
    (member : link ∈ ((System.start channel routingTable dedupPeriod busCapacity).run ahash steps).links)
    (past middle future : List Taken) (first second : Taken)
    (split : link.taken = past ++ first :: (middle ++ second :: future)) (msg msg' : RoutedMessage)
    (sends : first.accepted link.core = some msg) (resends : second.accepted link.core = some msg')
    (same : msg'.serializedBytes = msg.serializedBytes) :
    Apart ahash dedupPeriod (System.start channel routingTable dedupPeriod busCapacity) steps msg msg' := by
  have idle : Sound (System.start channel routingTable dedupPeriod busCapacity) := by simp [Sound, System.start]
  have sound := run_sound ahash idle steps
  have message := ((accepted_some ..).mp sends).1
  have place := taken_place sound member past _ first msg split message
  have place' := taken_place sound member (past ++ first :: middle) future second msg' (by simp [split])
    ((accepted_some ..).mp resends).1
  refine places_apart ahash enabled _ rfl rfl steps _ _ ?_ msg msg' place place' same
  simp only [Broadcast.width, List.map_append, List.map_cons, List.sum_append, List.sum_cons, message,
    Broadcast.Reception.width]
  omega

def redundant : List (Step CommonMessage) :=
  [.connect (relayCore 0), .connect (relayCore 1), .connect (relayCore 2), .incoming 0 sampleFrame 0 1,
    .incoming 1 sampleFrame 0 2, .rotateShard (shardIdx (sampleHash heartbeatV2.bytes)),
    .rotateShard (shardIdx (sampleHash heartbeatV2.bytes)), .incoming 1 sampleFrame 0 3, .recvNextBusMsg 2 false,
    .recvNextBusMsg 2 false]

theorem redundant_link : ∃ link first second,
    link ∈ ((System.start ring RoutingTable.new (Duration.fromMillis 200) 16).run sampleHash redundant).links ∧
    link.taken = [first, second] ∧ first.accepted link.core = some ((relayCore 0).routed sampleFrame 1) ∧
    second.accepted link.core = some ((relayCore 1).routed sampleFrame 3) := by
  let reached := (System.start ring RoutingTable.new (Duration.fromMillis 200) 16).run sampleHash redundant
  have sends : (reached.links[2]?.map fun link => link.taken.map (Taken.accepted link.core)) =
      some [some ((relayCore 0).routed sampleFrame 1), some ((relayCore 1).routed sampleFrame 3)] := by decide +kernel
  obtain ⟨link, found, accepted⟩ := Option.map_eq_some_iff.mp sends
  obtain ⟨first, others, taken, left, resends⟩ := List.map_eq_cons_iff.mp accepted
  obtain ⟨second, rest, rfl, right, nothing⟩ := List.map_eq_cons_iff.mp resends
  obtain rfl : rest = [] := List.map_eq_nil_iff.mp nothing
  exact ⟨link, first, second, List.mem_of_getElem? found, taken, left, right⟩

theorem repeats_a_window_apart_heartbeat : Apart sampleHash (Duration.fromMillis 200)
    (System.start ring RoutingTable.new (Duration.fromMillis 200) 16) redundant ((relayCore 0).routed sampleFrame 1)
    ((relayCore 1).routed sampleFrame 3) := by
  obtain ⟨link, first, second, member, taken, sends, resends⟩ := redundant_link
  exact repeats_a_window_apart sampleHash RoutingTable.new (Duration.fromMillis 200) (by decide) 16 redundant link
    member [] [] [] first second taken _ _ sends resends rfl

end MavRouter.Network
