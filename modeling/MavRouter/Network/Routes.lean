import MavRouter.Endpoints.Connections
import MavRouter.Framing.Streams
import MavRouter.Ingress.Learning
import MavRouter.Network.Forwarding
import MavRouter.Routing.Delivery

set_option autoImplicit false

namespace MavRouter.Network

open Endpoints Framing Ingress Orchestration Routing Runs Sightings
open Broadcast (ring)

variable {M : Type} [Message M] {ahash : List UInt8 → UInt64} {channel : Broadcast.Channel RoutedMessage}

def configured (channel : Broadcast.Channel RoutedMessage) (config : Config) : System :=
  System.start channel (registeredTable config) (Duration.fromMillis (config.general.dedupPeriodMs.getD 0).toNat)
    config.general.busCapacity.toNat

theorem configured_spawned (bucketBytes : Nat) (config : Config) (orchestrated : OrchestratedRouter)
    (spawned : spawnAll bucketBytes config = .ok orchestrated) :
    (configured channel config).router.bus = orchestrated.bus ∧
      (configured channel config).router.routingTable = orchestrated.routingTable ∧
      (configured channel config).router.dedup = orchestrated.dedup :=
  start_spawned bucketBytes 0 config orchestrated spawned

inductive RouteMoves (system later : System) : Step M → Prop where
  | heard (i : Nat) (frame : MavlinkFrame M) (now : Instant) (timestampUs : UInt64) (link : Link)
      (found : system.link i = some link) (passes : passesFilter link.core frame = true)
      (table : later.router.routingTable = system.router.routingTable)
      (inFlight : later.router.inFlight = system.router.inFlight ++ [observed link.core frame now]) :
      RouteMoves system later (.incoming i frame now timestampUs)
  | applied (clock : Instant) (u : RouteUpdate) (rest : List RouteUpdate)
      (first : system.router.batch.head? = some u) (inFlight : system.router.inFlight = u :: rest)
      (left : later.router.inFlight = rest)
      (table : later.router.routingTable = TableOp.apply system.router.routingTable (u.op clock)) :
      RouteMoves system later (.applyRouteUpdate clock)
  | pruned (now : Instant) (maxAge : Duration) (inFlight : later.router.inFlight = system.router.inFlight)
      (table : later.router.routingTable = TableOp.apply system.router.routingTable (.prune now maxAge)) :
      RouteMoves system later (.prune now maxAge)
  | other (op : Step M) (inFlight : later.router.inFlight = system.router.inFlight)
      (table : later.router.routingTable = system.router.routingTable) : RouteMoves system later op

theorem step_routeMoves (ahash : List UInt8 → UInt64) (system : System) (op : Step M) :
    RouteMoves system (system.step ahash op) op := by
  cases op with
  | incoming i frame now timestampUs =>
    cases found : system.link i with
    | none =>
      exact .other _ (by simp [System.step, System.incoming, found])
        (by simp [System.step, System.incoming, found])
    | some link =>
      obtain ⟨table, batch, _, queue⟩ := handleIncomingFrame_routes ahash link.core frame now timestampUs system.router
      have later : (system.step ahash (.incoming i frame now timestampUs)).router =
          link.core.handleIncomingFrame ahash frame now timestampUs system.router := by
        simp [System.step, System.incoming, found]
      rcases queue with same | ⟨passes, queue⟩
      · exact .other _ (by rw [later, RouterState.inFlight, batch, same, RouterState.inFlight]) (by rw [later, table])
      · refine .heard i frame now timestampUs link found ((acceptFrame_iff link.core frame).mpr passes)
          (by rw [later, table]) ?_
        rw [later, RouterState.inFlight, batch, queue, ← List.append_assoc, RouterState.inFlight]
  | recvRouteUpdate =>
    obtain ⟨queue, batch, received, same, _⟩ := recvRouteUpdate_cases (M := M) ahash system.router
    exact .other _ (by simpa [System.step, received, RouterState.inFlight] using same) (by simp [System.step, received])
  | applyRouteUpdate clock =>
    rcases applyRouteUpdate_cases (M := M) ahash system.router clock with ⟨same, _⟩ | ⟨u, rest, batch, applied⟩
    · exact .other _ (by simp [System.step, same]) (by simp [System.step, same])
    · refine .applied clock u (rest ++ system.router.routeUpdates.pending) (by rw [batch]; rfl) ?_ ?_ ?_
      · rw [RouterState.inFlight, batch, List.cons_append]
      · simp [System.step, applied, RouterState.inFlight]
      · simp [System.step, applied, TableOp.apply, RouteUpdate.op]
  | prune now maxAge => exact .pruned now maxAge rfl rfl
  | disconnect i =>
    refine .other _ ?_ ?_ <;> simp only [System.step, System.disconnect] <;> cases system.link i <;> rfl
  | recvNextBusMsg i cancelled =>
    refine .other _ ?_ ?_ <;> simp only [System.step, System.recvNextBusMsg] <;> cases system.link i <;> rfl
  | _ => exact .other _ rfl rfl

/-- A frame that some link read and let through, as an observation. -/
def Heard (ahash : List UInt8 → UInt64) (system : System) (steps : List (Step M)) (u : RouteUpdate) : Prop :=
  ∃ before i frame now timestampUs after link, steps = before ++ .incoming i frame now timestampUs :: after ∧
    (system.run ahash before).link i = some link ∧ passesFilter link.core frame = true ∧
    u = observed link.core frame now

theorem Heard.longer {system : System} {steps : List (Step M)} {u : RouteUpdate} (heard : Heard ahash system steps u)
    (more : List (Step M)) : Heard ahash system (steps ++ more) u := by
  obtain ⟨before, i, frame, now, timestampUs, after, link, rfl, rest⟩ := heard
  exact ⟨before, i, frame, now, timestampUs, after ++ more, link, by simp, rest⟩

/-- The table has gone through prunes and through updates that were heard; what is on the way there was heard too. -/
structure Learned (ahash : List UInt8 → UInt64) (system : System) (steps : List (Step M)) (reached : System) :
    Prop where
  applied : ∃ ops : List TableOp, reached.router.routingTable = system.router.routingTable.run ops ∧
    ∀ op ∈ ops, (∃ now maxAge, op = .prune now maxAge) ∨ ∃ u clock, Heard ahash system steps u ∧ op = u.op clock
  inFlight : ∀ u ∈ reached.router.inFlight, Heard ahash system steps u

theorem Learned.grow {system reached later : System} {steps : List (Step M)}
    (learned : Learned ahash system steps reached)
    (more : List (Step M)) (ops : List TableOp)
    (table : later.router.routingTable = reached.router.routingTable.run ops)
    (own : ∀ op ∈ ops, (∃ now maxAge, op = .prune now maxAge) ∨
      ∃ u clock, Heard ahash system (steps ++ more) u ∧ op = u.op clock)
    (inFlight : ∀ u ∈ later.router.inFlight, u ∈ reached.router.inFlight ∨ Heard ahash system (steps ++ more) u) :
    Learned ahash system (steps ++ more) later where
  applied := by
    obtain ⟨past, run, each⟩ := learned.applied
    refine ⟨past ++ ops, by rw [table, run, run_append], ?_⟩
    intro op member
    cases List.mem_append.mp member with
    | inl old => exact (each op old).imp_right fun ⟨u, clock, heard, same⟩ => ⟨u, clock, heard.longer more, same⟩
    | inr new => exact own op new
  inFlight u member := (inFlight u member).elim (fun old => (learned.inFlight u old).longer more) id

theorem run_learned (ahash : List UInt8 → UInt64) (system : System) (idle : system.router.inFlight = [])
    (steps : List (Step M)) :
    Learned ahash system steps (system.run ahash steps) := by
  apply run_history (System.step ahash) system (fun steps reached => Learned ahash system steps reached)
  · exact ⟨⟨[], rfl, by simp⟩, by simp [idle]⟩
  · intro steps op ih
    cases step_routeMoves ahash (steps.foldl (System.step ahash) system) op with
    | heard i frame now timestampUs link found passes table inFlight =>
      refine ih.grow _ [] table (by simp) ?_
      intro u member
      rw [inFlight, List.mem_append, List.mem_singleton] at member
      exact member.imp_right fun same =>
        ⟨steps, i, frame, now, timestampUs, [], link, rfl, found, passes, same⟩
    | applied clock u rest _ inFlight left table =>
      refine ih.grow _ [u.op clock] table ?_ ?_
      · intro op member
        exact .inr ⟨u, clock, (ih.inFlight u (by simp [inFlight])).longer _, List.mem_singleton.mp member⟩
      · intro v member
        rw [left] at member
        exact .inl (by simp [inFlight, member])
    | pruned now maxAge inFlight table =>
      refine ih.grow _ [.prune now maxAge] table ?_ ?_
      · intro op member
        exact .inl ⟨now, maxAge, List.mem_singleton.mp member⟩
      · intro v member
        exact .inl (inFlight ▸ member)
    | other _ inFlight table => exact ih.grow _ [] table (by simp) (fun v member => .inl (inFlight ▸ member))

theorem run_references (config : Config) (ops : List TableOp) :
    (abs ((registeredTable config).run ops)).routes = (Reference.run ops).routes ∧
      (abs ((registeredTable config).run ops)).sysRoutes = (Reference.run ops).sysRoutes := by
  obtain ⟨routes, sysRoutes⟩ := run_boards (registeredTable config) (registeredTable_wellFormed config) ops
  have empty : (abs (registeredTable config)).routes = Board.empty ∧
      (abs (registeredTable config)).sysRoutes = Board.empty := by
    simp only [Routing.abs, RoutingTable.shardFor, registeredTable_shards]
    exact ⟨rfl, rfl⟩
  rw [routes, sysRoutes, empty.1, empty.2, Reference.run_routes, Reference.run_sysRoutes]
  exact ⟨rfl, rfl⟩

theorem registered_sniffers (config : Config) :
    (absPolicy (registeredTable config).config).sniffers = config.general.snifferSysids.toFinset := by
  have groups (i : Nat) (endpoints : List EndpointConfig) (rt : RoutingTable) :
      (absPolicy (registerGroups i endpoints rt).config).sniffers = (absPolicy rt.config).sniffers := by
    induction endpoints generalizing i rt with
    | nil => rfl
    | cons cfg rest ih =>
      rw [Orchestration.registerGroups, ih]
      cases cfg.group <;> rfl
  rw [registeredTable]
  split_ifs with none
  · rw [groups, List.isEmpty_iff.mp none]
    rfl
  · rw [absPolicy_setSnifferSysids]
    rfl

theorem run_keeps_config (table : RoutingTable) (ops : List TableOp)
    (each : ∀ op ∈ ops,
      (∃ now maxAge, op = .prune now maxAge) ∨ ∃ (u : RouteUpdate) (clock : Instant), op = u.op clock) :
    (table.run ops).config = table.config := by
  induction ops generalizing table with
  | nil => rfl
  | cons op rest ih =>
    have first : (TableOp.apply table op).config = table.config := by
      rcases each op (by simp) with ⟨now, maxAge, rfl⟩ | ⟨u, clock, rfl⟩ <;> rfl
    exact (ih (TableOp.apply table op) fun later member => each later (by simp [member])).trans first

section Entries

variable {config : Config} {steps : List (Step M)} {ops : List TableOp}
  (each : ∀ op ∈ ops, (∃ now maxAge, op = .prune now maxAge) ∨
    ∃ u clock, Heard ahash (configured channel config) steps u ∧ op = u.op clock)

include each

theorem observed_heard (observer : EndpointId) (sysid compid : UInt8) (observed : Observed ops observer sysid compid) :
    ∃ u, Heard ahash (configured channel config) steps u ∧ u.endpointId = observer ∧ u.sysId = sysid := by
  obtain ⟨now, clock, member⟩ := observed
  rcases each _ member with ⟨now, maxAge, pruned⟩ | ⟨u, clock', heard, same⟩
  · cases pruned
  · simp only [RouteUpdate.op, TableOp.update.injEq] at same
    exact ⟨u, heard, same.1.symm, same.2.1.symm⟩

theorem system_heard (sysid : UInt8) (entry : Sighting EndpointId)
    (found : (Reference.run ops).sysRoutes sysid = some entry) (observer : EndpointId)
    (member : observer ∈ entry.observers) :
    ∃ u, Heard ahash (configured channel config) steps u ∧ u.endpointId = observer ∧ u.sysId = sysid := by
  obtain ⟨component, observed⟩ := system_observed ops sysid entry found observer member
  exact observed_heard each observer sysid component observed

theorem deciding_heard (sysid compid : UInt8) (entry : Sighting EndpointId)
    (found : (Reference.run ops).sysRoutes sysid = some entry) (observer : EndpointId)
    (member : observer ∈ ((Reference.run ops).deciding sysid compid entry).observers) :
    ∃ u, Heard ahash (configured channel config) steps u ∧ u.endpointId = observer ∧ u.sysId = sysid := by
  rw [Reference.deciding] at member
  split_ifs at member
  · exact system_heard each sysid entry found observer member
  · cases known : (Reference.run ops).routes (sysid, compid) with
    | none =>
      rw [known] at member
      exact system_heard each sysid entry found observer member
    | some sighting =>
      rw [known] at member
      exact observed_heard each observer sysid compid
        (component_observed ops sysid compid sighting known observer member)

theorem registered_policy : (abs ((registeredTable config).run ops)).policy =
    absPolicy (registeredTable config).config :=
  congrArg absPolicy (run_keeps_config (registeredTable config) ops fun op member =>
    (each op member).imp_right fun ⟨u, clock, _, same⟩ => ⟨u, clock, same⟩)

theorem sniffer_heard (endpointId : EndpointId)
    (sniffer : (abs ((registeredTable config).run ops)).Sniffer endpointId) :
    ∃ u, Heard ahash (configured channel config) steps u ∧ u.sysId ∈ config.general.snifferSysids ∧
      u.endpointId = endpointId := by
  obtain ⟨sniffed, sniffs, listed⟩ := sniffer
  rw [registered_policy each, registered_sniffers, List.mem_toFinset] at sniffs
  rw [(run_references config ops).2, mem_observersOf] at listed
  obtain ⟨sighting, found, member⟩ := listed
  obtain ⟨u, heard, here, rfl⟩ := system_heard each sniffed sighting found endpointId member
  exact ⟨u, heard, sniffs, here⟩

end Entries

theorem reaches_heard (config : Config) (steps : List (Step M)) (endpointId : EndpointId) (sysid compid : UInt8)
    (target : sysid ≠ 0)
    (sends : ((configured channel config).run ahash steps).router.routingTable.shouldSend endpointId sysid compid =
    true) :
    ∃ u, Heard ahash (configured channel config) steps u ∧
      ((u.sysId ∈ config.general.snifferSysids ∧ u.endpointId = endpointId) ∨
        (u.sysId = sysid ∧ (u.endpointId = endpointId ∨
          ∃ group, InGroup config group u.endpointId ∧ InGroup config group endpointId))) := by
  obtain ⟨ops, table, each⟩ := (run_learned ahash (configured channel config) rfl steps).applied
  change _ = (registeredTable config).run ops at table
  obtain ⟨routes, sysRoutes⟩ := run_references config ops
  obtain ⟨groupOf, members⟩ := registered_groups config
  have policy := registered_policy each
  rw [table, shouldSend_iff] at sends
  rcases sends with sniffer | everyone | ⟨entry, found, reaches⟩
  · obtain ⟨u, heard, sniffs, here⟩ := sniffer_heard each endpointId sniffer
    exact ⟨u, heard, .inl ⟨sniffs, here⟩⟩
  · exact absurd everyone target
  · rw [sysRoutes] at found
    have deciding : (abs ((registeredTable config).run ops)).deciding sysid compid entry =
        (Reference.run ops).deciding sysid compid entry := by
      rw [Reference.deciding, Reference.deciding, routes]
    rw [deciding] at reaches
    rcases reaches with own | ⟨group, grouped, source, inside, joined⟩
    · obtain ⟨u, heard, here, system⟩ := deciding_heard each sysid compid entry found endpointId own
      exact ⟨u, heard, .inr ⟨system, .inl here⟩⟩
    · obtain ⟨u, heard, rfl, system⟩ := deciding_heard each sysid compid entry found source inside
      rw [policy] at grouped joined
      exact ⟨u, heard, .inr ⟨system, .inr ⟨group, (members _ _).mp joined, (groupOf _ _).mp grouped⟩⟩⟩

theorem targeted_towards_heard (ahash : List UInt8 → UInt64) (config : Config) (steps : List (Step M)) (i : Nat)
    (link : Link) (found : ((configured channel config).run ahash steps).links[i]? = some link) (msg : RoutedMessage)
    (forwarded : msg ∈ link.forwarded) (target : msg.target.systemId ≠ 0) :
    ∃ before cancelled after, steps = before ++ .recvNextBusMsg i cancelled :: after ∧
      ((configured channel config).run ahash before).Takes i msg ∧
      ∃ u, Heard ahash (configured channel config) before u ∧
        ((u.sysId ∈ config.general.snifferSysids ∧ u.endpointId = link.core.id) ∨
          (u.sysId = msg.target.systemId ∧ (u.endpointId = link.core.id ∨
            ∃ group, InGroup config group u.endpointId ∧ InGroup config group link.core.id))) := by
  obtain ⟨before, cancelled, after, rfl, takes, passes⟩ := run_forwarded ahash _ rfl steps i link found msg forwarded
  simp only [checkOutgoing_eq, isBroadcast, target, decide_false, Bool.false_or, Bool.and_eq_true] at passes
  exact ⟨before, cancelled, after, rfl, takes, reaches_heard config before link.core.id _ _ target passes.2⟩

def requestV2 : ValidFrame common where
  version := .v2
  bytes := writeV2 ⟨255, 190, 0⟩ 110 [0, 1, 1, 7]
  message := .fileTransferProtocol 0 1 1 (7 :: List.replicate 250 0)
  complete := ⟨by decide +kernel, by decide +kernel⟩
  valid := by decide +kernel
  decodes := by rfl

def request : List (Step CommonMessage) :=
  [.connect (relayCore 0), .connect (relayCore 1), .incoming 0 sampleFrame 0 1, .recvRouteUpdate,
    .applyRouteUpdate 0, .incoming 1 requestV2.frame 0 2, .recvNextBusMsg 0 false, .recvNextBusMsg 0 false]

theorem request_link : ∃ link, ((configured ring {}).run sampleHash request).links[0]? = some link ∧
    link.core.id = ⟨0⟩ ∧
    (relayCore 1).routed requestV2.frame 2 ∈ link.forwarded := by
  refine ⟨((configured ring {}).run sampleHash request).links[0], rfl, rfl, ?_⟩
  decide +kernel

theorem targeted_towards_heard_request : ∃ before cancelled after,
    request = before ++ .recvNextBusMsg 0 cancelled :: after ∧
      ((configured ring {}).run sampleHash before).Takes 0 ((relayCore 1).routed requestV2.frame 2) ∧
      ∃ u, Heard sampleHash (configured ring {}) before u ∧
        ((u.sysId ∈ ([] : List UInt8) ∧ u.endpointId = ⟨0⟩) ∨
          (u.sysId = 1 ∧ (u.endpointId = ⟨0⟩ ∨ ∃ group, InGroup {} group u.endpointId ∧ InGroup {} group ⟨0⟩))) := by
  obtain ⟨link, found, id, forwarded⟩ := request_link
  have towards := targeted_towards_heard sampleHash {} request 0 link found _ forwarded (by decide)
  rw [id] at towards
  exact towards

/-- A frame whose route handle_incoming_frame looks after: let through, not a duplicate, on a link that learns. -/
def Noted (ahash : List UInt8 → UInt64) (system : System) (steps : List (Step M)) (u : RouteUpdate) : Prop :=
  ∃ before i frame now timestampUs after link, steps = before ++ .incoming i frame now timestampUs :: after ∧
    (system.run ahash before).link i = some link ∧ passesFilter link.core frame = true ∧
    isDuplicate ahash (system.run ahash before).router frame = false ∧ link.core.updateRouting = true ∧
    u = observed link.core frame now

-- The updater keeps up: no frame finds the queue full.
def Roomy (ahash : List UInt8 → UInt64) (system : System) (steps : List (Step M)) : Prop :=
  ∀ before i frame now timestampUs after, steps = before ++ .incoming i frame now timestampUs :: after →
    (system.run ahash before).router.routeUpdates.pending.length < routeUpdateQueueCapacity

def Kept (ahash : List UInt8 → UInt64) (system : System) (steps : List (Step M)) (sysid compid : UInt8) : Prop :=
  ∀ before now maxAge after, steps = before ++ .prune now maxAge :: after →
    let table := (system.run ahash before).router.routingTable
    ((table.component sysid compid).isSome → ((table.prune now maxAge).component sysid compid).isSome) ∧
      ((table.system sysid).isSome → ((table.prune now maxAge).system sysid).isSome)

theorem incoming_noted (ahash : List UInt8 → UInt64) (router : RouterState) (core : EndpointCore)
    (frame : MavlinkFrame M) (now : Instant) (timestampUs : UInt64) (passes : passesFilter core frame = true)
    (new : isDuplicate ahash router frame = false)
    (learns : core.updateRouting = true) (opened : router.routeUpdates.closed = false)
    (room : router.routeUpdates.pending.length < router.routeUpdates.capacity) :
    Lists router.routingTable core.id frame.header.systemId frame.header.componentId ∨
      observed core frame now ∈
        (core.handleIncomingFrame ahash frame now timestampUs router).routeUpdates.pending := by
  cases needed :
      router.routingTable.needsUpdateForEndpoint core.id frame.header.systemId frame.header.componentId now with
  | false => exact .inl (gate_closed _ _ _ _ _ needed)
  | true =>
    right
    simp only [passesFilter] at passes
    simp only [isDuplicate] at new
    simp [EndpointCore.handleIncomingFrame, passes, new, (publishFrame_routes ..).2.1, EndpointCore.observeRoute,
      learns, needed, RouteQueue.trySend, opened, Nat.not_le.mpr room, observed]

theorem step_queue (ahash : List UInt8 → UInt64) (system : System) (op : Step M) :
    (system.step ahash op).router.routeUpdates.closed = system.router.routeUpdates.closed ∧
      (system.step ahash op).router.routeUpdates.capacity = system.router.routeUpdates.capacity := by
  cases op with
  | incoming i frame now timestampUs =>
    simp only [System.step, System.incoming]
    cases system.link i with
    | none => simp
    | some link =>
      obtain ⟨_, _, _, queue⟩ := handleIncomingFrame_routes ahash link.core frame now timestampUs system.router
      rcases queue with same | ⟨_, queue⟩
      · simp [same]
      · simp [queue]
  | recvRouteUpdate =>
    obtain ⟨queue, batch, received, _, closed, capacity, _⟩ := recvRouteUpdate_cases (M := M) ahash system.router
    simp only [System.step, received]
    exact ⟨closed, capacity⟩
  | applyRouteUpdate clock =>
    rcases applyRouteUpdate_cases (M := M) ahash system.router clock with ⟨same, _⟩ | ⟨u, rest, _, applied⟩
    · simp [System.step, same]
    · simp [System.step, applied]
  | disconnect i => simp only [System.step, System.disconnect]; cases system.link i <;> simp
  | recvNextBusMsg i cancelled => simp only [System.step, System.recvNextBusMsg]; cases system.link i <;> simp
  | _ => exact ⟨rfl, rfl⟩

theorem run_queue (ahash : List UInt8 → UInt64) (system : System) (steps : List (Step M)) :
    (system.run ahash steps).router.routeUpdates.closed = system.router.routeUpdates.closed ∧
      (system.run ahash steps).router.routeUpdates.capacity = system.router.routeUpdates.capacity := by
  induction steps generalizing system with
  | nil => exact ⟨rfl, rfl⟩
  | cons op rest ih =>
    obtain ⟨closed, capacity⟩ := step_queue ahash system op
    obtain ⟨closed', capacity'⟩ := ih (system.step ahash op)
    exact ⟨closed'.trans closed, capacity'.trans capacity⟩

theorem run_wellFormed (ahash : List UInt8 → UInt64) (system : System)
    (wellFormed : WellFormed system.router.routingTable) (steps : List (Step M)) :
    WellFormed (system.run ahash steps).router.routingTable := by
  induction steps generalizing system with
  | nil => exact wellFormed
  | cons op rest ih =>
    apply ih (system.step ahash op)
    cases step_routeMoves ahash system op with
    | heard _ _ _ _ _ _ _ table => rwa [table]
    | applied clock u _ _ _ _ table => exact table ▸ apply_wellFormed _ _ wellFormed
    | pruned now maxAge _ table => exact table ▸ apply_wellFormed _ _ wellFormed
    | other _ _ table => rwa [table]

theorem listed_isSome {table : RoutingTable} {endpointId : EndpointId} {sysid compid : UInt8}
    (listed : Lists table endpointId sysid compid) :
    (table.component sysid compid).isSome ∧ (table.system sysid).isSome := by
  have components : (abs table).routes (sysid, compid) = (table.component sysid compid).map absEntry := rfl
  have systems : (abs table).sysRoutes sysid = (table.system sysid).map absEntry := rfl
  simp only [Routing.Lists, mem_observersOf, components, systems] at listed
  obtain ⟨⟨entry, found, _⟩, ⟨entry', found', _⟩⟩ := listed
  constructor
  · cases known : table.component sysid compid <;> simp [known] at found ⊢
  · cases known : table.system sysid <;> simp [known] at found' ⊢

theorem prune_lists (table : RoutingTable) (wellFormed : WellFormed table) (now : Instant) (maxAge : Duration)
    (endpointId : EndpointId) (sysid compid : UInt8) (listed : Lists table endpointId sysid compid)
    (component : ((table.prune now maxAge).component sysid compid).isSome)
    (system : ((table.prune now maxAge).system sysid).isSome) :
    Lists (table.prune now maxAge) endpointId sysid compid := by
  have pruned : abs (table.prune now maxAge) = (abs table).apply (.prune now maxAge) :=
    abs_apply table (.prune now maxAge) wellFormed
  have components : (abs (table.prune now maxAge)).routes (sysid, compid) =
      ((table.prune now maxAge).component sysid compid).map absEntry := rfl
  have systems : (abs (table.prune now maxAge)).sysRoutes sysid =
      ((table.prune now maxAge).system sysid).map absEntry := rfl
  simp only [Routing.Lists, mem_observersOf] at listed ⊢
  obtain ⟨⟨entry, found, inside⟩, ⟨entry', found', inside'⟩⟩ := listed
  obtain ⟨kept, stays⟩ := Option.isSome_iff_exists.mp component
  obtain ⟨kept', stays'⟩ := Option.isSome_iff_exists.mp system
  rw [stays, pruned] at components
  rw [stays', pruned] at systems
  have same := ((expire_eq_some ..).mp components).1
  have same' := ((expire_eq_some ..).mp systems).1
  rw [pruned]
  rw [found, Option.some.injEq] at same
  rw [found', Option.some.injEq] at same'
  exact ⟨⟨_, components, same ▸ inside⟩, ⟨_, systems, same' ▸ inside'⟩⟩

def Covers (reached : System) (u : RouteUpdate) : Prop :=
  u.ListedIn reached.router.routingTable ∨ ∃ v ∈ reached.router.inFlight, v.SameRoute u

theorem update_lists (table : RoutingTable) (wellFormed : WellFormed table) (u v : RouteUpdate) (clock : Instant)
    (listed : v.ListedIn table ∨ u.SameRoute v) : v.ListedIn (TableOp.apply table (u.op clock)) := by
  apply run_lists table wellFormed [u.op clock] (by simp [RouteUpdate.op, TableOp.learns])
  refine listed.imp_right fun same => ⟨u.now, clock, ?_⟩
  obtain ⟨endpointId, sysId, compId⟩ := same
  simp [RouteUpdate.op, endpointId, sysId, compId]

theorem run_covers (config : Config) (steps : List (Step M)) (roomy : Roomy ahash (configured channel config) steps)
    (u : RouteUpdate) (kept : Kept ahash (configured channel config) steps u.sysId u.compId)
    (noted : Noted ahash (configured channel config) steps u) :
    Covers ((configured channel config).run ahash steps) u := by
  revert roomy kept noted
  apply run_history (System.step ahash) (configured channel config)
    (fun steps reached => Roomy ahash (configured channel config) steps →
      Kept ahash (configured channel config) steps u.sysId u.compId →
      Noted ahash (configured channel config) steps u → Covers reached u)
  · rintro _ _ ⟨before, i, frame, now, timestampUs, after, link, split, _⟩
    simp at split
  · intro steps op ih roomy kept noted
    have shorter : Noted ahash (configured channel config) steps u →
      Covers ((configured channel config).run ahash steps) u :=
      ih (fun before i frame now timestampUs after split =>
          roomy before i frame now timestampUs (after ++ [op]) (by simp [split]))
        (fun before now maxAge after split => kept before now maxAge (after ++ [op]) (by simp [split]))
    have wellFormed := run_wellFormed ahash (configured channel config) (registeredTable_wellFormed config) steps
    have moves := step_routeMoves ahash ((configured channel config).run ahash steps) op
    change Covers (((configured channel config).run ahash steps).step ahash op) u
    have stays (covered : Covers ((configured channel config).run ahash steps) u) :
        Covers (((configured channel config).run ahash steps).step ahash op) u := by
      cases moves with
      | heard i frame now timestampUs link found passes table inFlight =>
        rw [Covers, table, inFlight]
        exact covered.imp_right fun ⟨v, flying, same⟩ => ⟨v, List.mem_append_left _ flying, same⟩
      | applied clock v rest _ inFlight left table =>
        rw [Covers, table, left]
        rw [Covers, inFlight] at covered
        rcases covered with listed | ⟨w, waiting, same⟩
        · exact .inl (update_lists _ wellFormed v u clock (.inl listed))
        · rcases List.mem_cons.mp waiting with rfl | later
          · exact .inl (update_lists _ wellFormed w u clock (.inr same))
          · exact .inr ⟨w, later, same⟩
      | pruned now maxAge inFlight table =>
        rw [Covers, table, inFlight]
        refine covered.imp_left fun listed => ?_
        obtain ⟨component, system⟩ := kept steps now maxAge [] rfl
        obtain ⟨here, there⟩ := listed_isSome listed
        exact prune_lists _ wellFormed now maxAge _ _ _ listed (component here) (system there)
      | other _ inFlight table => rwa [Covers, table, inFlight]
    obtain ⟨before, i, frame, now, timestampUs, after, link, split, opened, passes, new, learns, rfl⟩ := noted
    rcases (concat_split ..).mp split with ⟨_, rfl, rfl⟩ | ⟨front, _, rfl⟩
    · obtain ⟨closed, capacity⟩ := run_queue ahash (configured channel config) steps
      have room := roomy steps i frame now timestampUs [] rfl
      have here := incoming_noted ahash _ link.core frame now timestampUs passes new learns closed
        (by rw [capacity]; exact room)
      have table := (handleIncomingFrame_routes ahash link.core frame now timestampUs
        ((configured channel config).run ahash steps).router).1
      simp only [Covers, System.step, System.incoming, opened, table]
      exact here.imp_right fun pending => ⟨_, List.mem_append_right _ pending, rfl, rfl, rfl⟩
    · exact stays (shorter ⟨before, i, frame, now, timestampUs, front, link, rfl, opened, passes, new, learns, rfl⟩)

theorem listed_sends (table : RoutingTable) (endpointId : EndpointId) (sysid compid target : UInt8)
    (listed : Lists table endpointId sysid compid) (heard : target = compid ∨ target = 0) :
    table.shouldSend endpointId sysid target = true := by
  rw [shouldSend_iff]
  simp only [Routing.Lists, mem_observersOf] at listed
  obtain ⟨⟨entry, found, inside⟩, ⟨entry', found', inside'⟩⟩ := listed
  refine .inr (.inr ⟨entry', found', .inl ?_⟩)
  rw [Reference.deciding]
  split_ifs with all
  · exact inside'
  · rw [heard.resolve_right all, found]
    exact inside

theorem roomy_short (system : System) (steps : List (Step M))
    (short : system.router.inFlight.length + steps.length ≤ routeUpdateQueueCapacity) :
    Roomy ahash system steps := by
  rintro before i frame now timestampUs after rfl
  have bounded (past : List (Step M)) : (system.run ahash past).router.inFlight.length ≤
      system.router.inFlight.length + past.length := by
    apply run_history (System.step ahash) system (fun past reached => reached.router.inFlight.length ≤
      system.router.inFlight.length + past.length)
    · simp
    · intro past op ih
      rw [List.length_append, List.length_singleton]
      cases step_routeMoves ahash (past.foldl (System.step ahash) system) op with
      | heard _ _ _ _ _ _ _ _ inFlight => rw [inFlight, List.length_append, List.length_singleton]; omega
      | applied _ _ _ _ inFlight left => rw [left]; rw [inFlight, List.length_cons] at ih; omega
      | pruned _ _ inFlight => rw [inFlight]; omega
      | other _ inFlight => rw [inFlight]; omega
  have here := bounded before
  have within : (system.run ahash before).router.routeUpdates.pending.length ≤
      (system.run ahash before).router.inFlight.length := by simp [RouterState.inFlight]
  simp only [List.length_append, List.length_cons] at short
  omega

theorem heard_is_served (ahash : List UInt8 → UInt64) (config : Config) (steps : List (Step M))
    (roomy : Roomy ahash (configured channel config) steps) (u : RouteUpdate)
    (noted : Noted ahash (configured channel config) steps u)
    (kept : Kept ahash (configured channel config) steps u.sysId u.compId)
    (drained : ((configured channel config).run ahash steps).router.inFlight = []) (core : EndpointCore)
    (own : core.id = u.endpointId) (msg : RoutedMessage) (system : msg.target.systemId = u.sysId)
    (component : msg.target.componentId = u.compId ∨ msg.target.componentId = 0) :
    core.checkOutgoing ((configured channel config).run ahash steps).router.routingTable msg = wants core msg := by
  have covers := run_covers config steps roomy u kept noted
  rw [Covers, drained] at covers
  have listed := covers.resolve_right (by simp)
  rw [checkOutgoing_eq, own, system, listed_sends _ _ _ _ _ listed component, Bool.or_true, Bool.and_true]

theorem heard_is_served_request : let reached := (configured ring {}).run sampleHash (request.take 5)
    (relayCore 0).checkOutgoing reached.router.routingTable ((relayCore 1).routed requestV2.frame 2) =
      wants (relayCore 0) ((relayCore 1).routed requestV2.frame 2) := by
  intro reached
  have noted : Noted sampleHash (configured ring {}) (request.take 5) ⟨⟨0⟩, 1, 1, 0⟩ :=
    ⟨request.take 2, 0, sampleFrame, 0, 1, [.recvRouteUpdate, .applyRouteUpdate 0],
      ((configured ring {}).run sampleHash (request.take 2)).links[0],
      rfl, rfl, by decide +kernel, by decide +kernel, rfl, rfl⟩
  have roomy : Roomy sampleHash (configured ring {}) (request.take 5) :=
    roomy_short (configured ring {}) (request.take 5) (by decide)
  have kept : Kept sampleHash (configured ring {}) (request.take 5) 1 1 := by
    intro before now maxAge after split
    have pruned : Step.prune now maxAge ∈ request.take 5 := by simp [split]
    simp [request] at pruned
  exact heard_is_served sampleHash {} (request.take 5) roomy ⟨⟨0⟩, 1, 1, 0⟩ noted kept (by decide +kernel)
    (relayCore 0) rfl _ rfl (.inl rfl)

end MavRouter.Network
