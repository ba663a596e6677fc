import MavRouter.Endpoints.Connections

set_option autoImplicit false

namespace MavRouter.Endpoints

open Maps Sightings Framing Ingress Orchestration Routing

variable {M : Type} [Message M]

def isTcpServer : EndpointConfig → Bool
  | .tcp _ .server _ _ => true
  | _ => false

theorem serves_transport (pruneTtl : UInt64) (cfg : EndpointConfig) :
    serves (transport pruneTtl cfg) = isTcpServer cfg := by
  cases cfg with
  | udp address mode timeout filters group => rfl
  | tcp address mode filters group => cases mode <;> rfl
  | serial device baud flowControl filters group => rfl

def Connection.Configured (config : Config) (connection : Connection) : Prop :=
  ∀ cfg, config.endpoint[connection.endpoint]? = some cfg →
    connection.core.filters = cfg.filters ∧
      (isTcpServer cfg = false → connection.core.id = ⟨connection.endpoint⟩)

def Heard (M : Type) [Message M] (config : Config) (sender : Nat) (update : RouteUpdate) : Prop :=
  ∀ cfg, config.endpoint[sender]? = some cfg →
    (∃ frame : MavlinkFrame M, passes cfg.filters frame ∧ frame.header.systemId = update.sysId) ∧
      (isTcpServer cfg = false → update.endpointId = ⟨sender⟩)

structure Sound (M : Type) [Message M] (config : Config) (links : Links) : Prop where
  table : WellFormed links.router.routingTable
  groups : links.router.routingTable.config = (registeredTable config).config
  connections : ∀ connection ∈ links.connections, connection.Configured config
  inFlight : List.Forall₂ (Heard M config) links.senders links.router.inFlight

theorem start_sound (config : Config) (nextTcpClientId : Nat) :
    Sound M config (Links.start config nextTcpClientId) where
  table := registeredTable_wellFormed config
  groups := rfl
  connections := by
    intro connection member
    cases member
  inFlight := .nil

theorem connect_connections (config : Config) (links : Links) (endpoint : Nat) :
    let later := links.connect config endpoint
    later.router = links.router ∧ later.senders = links.senders ∧
      ∀ connection ∈ later.connections, connection ∈ links.connections ∨ connection.Configured config := by
  have opened (ctx : EndpointSpawnContext) (spawned : Transport) (core : EndpointCore)
      (found : spawnedEndpoint config endpoint = some (ctx, spawned)) (filters : core.filters = ctx.filters)
      (id : serves spawned = false → core.id = ⟨ctx.id⟩) : Connection.Configured config ⟨endpoint, core⟩ := by
    intro cfg given
    obtain ⟨ctx', found', index, filters'⟩ := spawnedEndpoint_configured config endpoint cfg given
    rw [found] at found'
    cases found'
    rw [serves_transport, index] at id
    exact ⟨filters.trans filters', id⟩
  have grown (core : EndpointCore) (configured : Connection.Configured config ⟨endpoint, core⟩) :
      ∀ connection ∈ links.connections ++ [⟨endpoint, core⟩],
        connection ∈ links.connections ∨ connection.Configured config := by
    intro connection member
    apply (List.mem_append.mp member).imp_right
    intro new
    rw [List.mem_singleton.mp new]
    exact configured
  simp only [Links.connect]
  cases found : spawnedEndpoint config endpoint with
  | none => exact ⟨rfl, rfl, fun connection member => .inl member⟩
  | some pair =>
    obtain ⟨ctx, spawned⟩ := pair
    dsimp only
    split_ifs with server full idle
    · exact ⟨rfl, rfl, fun connection member => .inl member⟩
    · refine ⟨rfl, rfl, grown _ (opened ctx spawned _ found rfl ?_)⟩
      intro client
      rw [server] at client
      cases client
    · exact ⟨rfl, rfl, grown _ (opened ctx spawned _ found rfl fun _ => rfl)⟩
    · exact ⟨rfl, rfl, fun connection member => .inl member⟩

theorem incoming_sound (config : Config) (ahash : List UInt8 → UInt64) (links : Links) (sound : Sound M config links)
    (connection : Nat) (frame : MavlinkFrame M) (now : Instant) (timestampUs : UInt64) :
    Sound M config (links.incoming ahash connection frame now timestampUs) := by
  rw [Links.incoming]
  cases found : links.connections[connection]? with
  | none => exact sound
  | some conn =>
    obtain ⟨table, batch, _, updates⟩ := handleIncomingFrame_routes ahash conn.core frame now timestampUs links.router
    have flying := sound.inFlight
    refine ⟨?_, ?_, sound.connections, ?_⟩
    · dsimp only
      rw [table]
      exact sound.table
    · dsimp only
      rw [table]
      exact sound.groups
    · dsimp only
      rw [RouterState.inFlight, batch]
      rcases updates with same | ⟨accepted, one⟩
      · rw [same, Nat.sub_self, List.replicate_zero, List.append_nil]
        exact flying
      · have grown : (links.router.routeUpdates.pending ++ [observed conn.core frame now]).length -
            links.router.routeUpdates.pending.length = 1 := by
          rw [List.length_append, Nat.add_sub_cancel_left, List.length_singleton]
        rw [one, grown, List.replicate_one, ← List.append_assoc]
        apply List.rel_append flying
        refine .cons ?_ .nil
        intro cfg given
        obtain ⟨filters, id⟩ := sound.connections conn (List.mem_of_getElem? found) cfg given
        exact ⟨⟨frame, filters ▸ accepted, rfl⟩, id⟩

theorem step_sound (config : Config) (ahash : List UInt8 → UInt64) (links : Links) (sound : Sound M config links)
    (op : LinkStep M) : Sound M config (links.step config ahash op) := by
  cases op with
  | connect endpoint =>
    obtain ⟨router, senders, configured⟩ := connect_connections config links endpoint
    simp only [Links.step]
    refine ⟨by rw [router]; exact sound.table, by rw [router]; exact sound.groups, ?_,
      by rw [router, senders]; exact sound.inFlight⟩
    intro connection member
    exact (configured connection member).elim (sound.connections connection) id
  | disconnect connection =>
    exact ⟨sound.table, sound.groups, fun conn member => sound.connections conn (List.mem_of_mem_eraseIdx member),
      sound.inFlight⟩
  | incoming connection frame now timestampUs =>
    exact incoming_sound config ahash links sound connection frame now timestampUs
  | rotateShard shard => exact ⟨sound.table, sound.groups, sound.connections, sound.inFlight⟩
  | recvRouteUpdate =>
    obtain ⟨queue, batch, received, same, _⟩ := recvRouteUpdate_cases (M := M) ahash links.router
    simp only [Links.step, received]
    refine ⟨sound.table, sound.groups, sound.connections, ?_⟩
    rw [RouterState.inFlight, same]
    exact sound.inFlight
  | applyRouteUpdate clock =>
    rcases applyRouteUpdate_cases (M := M) ahash links.router clock with ⟨same, empty⟩ | ⟨update, rest, batch, applied⟩
    · simp only [Links.step, same, empty, List.isEmpty_nil, if_true]
      exact sound
    · have flying := sound.inFlight
      rw [RouterState.inFlight, batch, List.cons_append] at flying
      obtain ⟨sender, senders, _, remaining, split⟩ := List.forall₂_cons_right_iff.mp flying
      simp only [Links.step, applied, batch, split]
      exact ⟨apply_wellFormed _ (.update ..) sound.table, sound.groups, sound.connections, remaining⟩
  | prune now maxAge =>
    exact ⟨apply_wellFormed _ (.prune now maxAge) sound.table, sound.groups, sound.connections, sound.inFlight⟩

theorem run_sound (config : Config) (ahash : List UInt8 → UInt64) (links : Links) (sound : Sound M config links)
    (steps : List (LinkStep M)) : Sound M config (links.run config ahash steps) := by
  induction steps generalizing links with
  | nil => exact sound
  | cons op rest ih => exact ih _ (step_sound config ahash links sound op)

def HeardBy (table : RoutingTable) (sysid : UInt8) (endpointId : EndpointId) : Prop :=
  ∃ entry, table.system sysid = some entry ∧ endpointId ∈ entry.endpoints

theorem HeardBy.prune {table : RoutingTable} {sysid : UInt8} {endpointId : EndpointId}
    (heard : HeardBy table sysid endpointId) (now : Instant) (maxAge : Duration)
    (kept : ((table.prune now maxAge).system sysid).isSome) : HeardBy (table.prune now maxAge) sysid endpointId := by
  obtain ⟨entry, found, member⟩ := heard
  have retained : (table.prune now maxAge).system sysid =
      (table.system sysid).filter fun entry => !entry.expired now maxAge := HashMap.lookup_retain ..
  rw [retained, found] at kept
  refine ⟨entry, ?_, member⟩
  rw [retained, found]
  exact Option.filter_eq_some_iff.mpr ⟨rfl, by simpa [Option.isSome_filter] using kept⟩

theorem step_heard (config : Config) (ahash : List UInt8 → UInt64) (links : Links) (sound : Sound M config links)
    (op : LinkStep M) (sysid : UInt8) (endpointId : EndpointId)
    (heard : HeardBy links.router.routingTable sysid endpointId)
    (kept : ((links.step config ahash op).router.routingTable.system sysid).isSome) :
    HeardBy (links.step config ahash op).router.routingTable sysid endpointId := by
  cases op with
  | connect endpoint =>
    rw [Links.step, (connect_connections config links endpoint).1]
    exact heard
  | disconnect connection => exact heard
  | incoming connection frame now timestampUs =>
    rw [Links.step, Links.incoming]
    cases links.connections[connection]? with
    | none => exact heard
    | some conn =>
      dsimp only
      rw [(handleIncomingFrame_routes ahash conn.core frame now timestampUs links.router).1]
      exact heard
  | rotateShard shard => exact heard
  | recvRouteUpdate =>
    obtain ⟨queue, batch, received, _⟩ := recvRouteUpdate_cases (M := M) ahash links.router
    simp only [Links.step, received]
    exact heard
  | applyRouteUpdate clock =>
    rcases applyRouteUpdate_cases (M := M) ahash links.router clock with ⟨same, _⟩ | ⟨update, rest, _, applied⟩
    · simp only [Links.step, same]
      exact heard
    · obtain ⟨entry, found, member⟩ := heard
      obtain ⟨later, found', grows⟩ := (update_keeps links.router.routingTable sound.table update.endpointId
        update.sysId
        update.compId update.now clock).2 sysid entry found
      simp only [Links.step, applied]
      exact ⟨later, found', grows endpointId member⟩
  | prune now maxAge => exact heard.prune now maxAge kept

theorem run_heard (config : Config) (ahash : List UInt8 → UInt64) (links : Links) (sound : Sound M config links)
    (steps : List (LinkStep M)) (sysid : UInt8) (endpointId : EndpointId)
    (heard : HeardBy links.router.routingTable sysid endpointId)
    (kept : ∀ sooner, sooner <+: steps → ((links.run config ahash sooner).router.routingTable.system sysid).isSome) :
    HeardBy (links.run config ahash steps).router.routingTable sysid endpointId := by
  induction steps generalizing links with
  | nil => exact heard
  | cons op rest ih =>
    apply ih _ (step_sound config ahash links sound op)
      (step_heard config ahash links sound op sysid endpointId heard (kept [op] ⟨rest, rfl⟩))
    intro sooner inside
    exact kept (op :: sooner) ((List.prefix_cons_inj op).mpr inside)

theorem heardBy_iff (table : RoutingTable) (sysid : UInt8) (endpointId : EndpointId) :
    HeardBy table sysid endpointId ↔ endpointId ∈ observersOf ((abs table).sysRoutes sysid) :=
  (mem_absMap ..).symm

theorem update_heardBy (table : RoutingTable) (wellFormed : WellFormed table) (observer : EndpointId)
    (sysid compid : UInt8) (now clock : Instant) (sysid' : UInt8) (endpointId : EndpointId) :
    HeardBy (table.update observer sysid compid now clock) sysid' endpointId ↔
      HeardBy table sysid' endpointId ∨ (sysid' = sysid ∧ endpointId = observer) := by
  have learned : (abs (table.update observer sysid compid now clock)).sysRoutes =
      (abs table).sysRoutes.apply (systemView (.update observer sysid compid now clock)) :=
    congrArg Reference.sysRoutes (abs_apply table (.update observer sysid compid now clock) wellFormed)
  have lists := (apply_lists (abs table).sysRoutes (systemView (.update observer sysid compid now clock))
    (fun now maxAge expires => by cases expires) sysid').2 endpointId
  rw [heardBy_iff, heardBy_iff, learned, lists]
  simp [systemView, eq_comm]

/-- Once an observation of one endpoint is in the table, every connection of the other gets what is for that system,
until a prune removes the system. -/
def SharesRoutes (M : Type) [Message M] (config : Config) (ahash : List UInt8 → UInt64) (nextTcpClientId i j : Nat) :
    Prop :=
  ∀ (older newer : List (LinkStep M)) (clock : Instant) (update : RouteUpdate),
    let before := (Links.start config nextTcpClientId).run config ahash older
    before.senders.head? = some i →
    before.router.batch.head? = some update →
    let applied := before.step config ahash (.applyRouteUpdate (M := M) clock)
    (∀ sooner, sooner <+: newer →
      ((applied.run config ahash sooner).router.routingTable.system update.sysId).isSome) →
    let later := applied.run config ahash newer
    ∀ connection ∈ later.liveOf j, later.router.routingTable.shouldSend connection.core.id update.sysId 0 = true

section Shared

variable (config : Config) (ahash : List UInt8 → UInt64) (nextTcpClientId i j : Nat) (cfgI cfgJ : EndpointConfig)
  (givenI : config.endpoint[i]? = some cfgI) (givenJ : config.endpoint[j]? = some cfgJ)

include givenI

theorem head_heard (older : List (LinkStep M)) (update : RouteUpdate)
    (sender : ((Links.start config nextTcpClientId).run config ahash older).senders.head? = some i)
    (queued : ((Links.start config nextTcpClientId).run config ahash older).router.batch.head? = some update) :
    (∃ frame : MavlinkFrame M, passes cfgI.filters frame ∧ frame.header.systemId = update.sysId) ∧
      (isTcpServer cfgI = false → update.endpointId = ⟨i⟩) := by
  have sound := run_sound config ahash _ (start_sound (M := M) config nextTcpClientId) older
  obtain ⟨senders, split⟩ := List.head?_eq_some_iff.mp sender
  obtain ⟨batch, split'⟩ := List.head?_eq_some_iff.mp queued
  have matched := sound.inFlight
  rw [RouterState.inFlight, split, split'] at matched
  exact (List.forall₂_cons.mp matched).1 cfgI givenI

theorem silent_shares (silent : ∀ frame : MavlinkFrame M, ¬passes cfgI.filters frame) :
    SharesRoutes M config ahash nextTcpClientId i j := by
  intro older newer clock update before sender queued
  obtain ⟨frame, passed, _⟩ := (head_heard config ahash nextTcpClientId i cfgI givenI older update sender queued).1
  exact absurd passed (silent frame)

include givenJ

theorem clients_share (group : String) (groupI : cfgI.group = some group) (groupJ : cfgJ.group = some group)
    (clientI : isTcpServer cfgI = false) (clientJ : isTcpServer cfgJ = false) :
    SharesRoutes M config ahash nextTcpClientId i j := by
  intro older newer clock update before sender queued applied kept later connection live
  have sound : Sound M config before := run_sound config ahash _ (start_sound config nextTcpClientId) older
  have soundApplied : Sound M config applied := step_sound config ahash before sound (.applyRouteUpdate clock)
  have soundLater : Sound M config later := run_sound config ahash applied soundApplied newer
  obtain ⟨⟨frame, passed, system⟩, own⟩ := head_heard config ahash nextTcpClientId i cfgI givenI older update sender
    queued
  have learned : HeardBy applied.router.routingTable update.sysId ⟨i⟩ := by
    obtain ⟨rest, split⟩ := List.head?_eq_some_iff.mp queued
    have table : applied.router.routingTable = before.router.routingTable.update update.endpointId update.sysId
        update.compId update.now clock := by
      simp only [applied, Links.step, RouterOp.apply, split]
    rw [table, update_heardBy _ sound.table]
    exact .inr ⟨rfl, (own clientI).symm⟩
  obtain ⟨entry, found, member⟩ := run_heard config ahash applied soundApplied newer update.sysId ⟨i⟩ learned kept
  obtain ⟨inside, endpoint⟩ := List.mem_filter.mp live
  have target : connection.core.id = ⟨j⟩ := by
    have same := of_decide_eq_true endpoint
    have configured := (soundLater.connections connection inside cfgJ (same ▸ givenJ)).2 clientJ
    rw [configured, same]
  have groups := registered_groups config
  rw [← soundLater.groups] at groups
  rw [shouldSend_iff, target]
  refine .inr (.inr ⟨absEntry entry, ?_, .inr ⟨group, (groups.1 ⟨j⟩ group).mpr ⟨cfgJ, givenJ, groupJ⟩, ⟨i⟩, ?_,
    (groups.2 ⟨i⟩ group).mpr ⟨cfgI, givenI, groupI⟩⟩⟩)
  · exact congrArg (Option.map absEntry) found
  · exact (HashSet.mem_toFinset ..).mpr member

end Shared

theorem first_update_heardBy (config : Config) (observer : EndpointId) (sysid compid : UInt8) (now clock : Instant)
    (sysid' : UInt8) (endpointId : EndpointId) :
    HeardBy ((registeredTable config).update observer sysid compid now clock) sysid' endpointId ↔
      sysid' = sysid ∧ endpointId = observer := by
  rw [update_heardBy _ (registeredTable_wellFormed config)]
  apply or_iff_right
  rintro ⟨entry, found, _⟩
  rw [registeredTable_system] at found
  cases found

theorem inGroup_configured (config : Config) (group : String) (id : EndpointId) (inside : InGroup config group id) :
    id.id < config.endpoint.length := by
  obtain ⟨cfg, given, _⟩ := inside
  exact (List.getElem?_eq_some_iff.mp given).1

theorem ungrouped_unsent (config : Config) (table : RoutingTable)
    (groups : table.config = (registeredTable config).config) (observer endpointId : EndpointId)
    (only : ∀ sysid id, HeardBy table sysid id → id = observer) (other : endpointId ≠ observer)
    (outside : config.endpoint.length ≤ observer.id ∨ config.endpoint.length ≤ endpointId.id) (sysid : UInt8)
    (proper : sysid ≠ 0) : table.shouldSend endpointId sysid 0 = false := by
  apply Bool.eq_false_iff.mpr
  rw [Ne, shouldSend_iff]
  rintro (⟨sniffer, _, member⟩ | everyone | ⟨entry, found, reaches⟩)
  · exact other (only sniffer endpointId ((heardBy_iff ..).mpr member))
  · exact proper everyone
  · have heard (id : EndpointId) (member : id ∈ entry.observers) : id = observer :=
      only sysid id ((heardBy_iff ..).mpr (by rw [found]; exact member))
    rcases reaches with member | ⟨group, own, ep, member, inside⟩
    · exact other (heard endpointId member)
    · have registered := registered_groups config
      rw [← groups] at registered
      have known := inGroup_configured config group _ ((registered.1 endpointId group).mp own)
      have known' := inGroup_configured config group _ ((registered.2 ep group).mp inside)
      rw [heard ep member] at known'
      omega

theorem connect_opens (config : Config) (links : Links) (idle : links.connections = []) (endpoint : Nat)
    (cfg : EndpointConfig) (given : config.endpoint[endpoint]? = some cfg) :
    ∃ core : EndpointCore, core.filters = cfg.filters ∧ core.updateRouting = true ∧
      core.id = ⟨if isTcpServer cfg then links.nextTcpClientId else endpoint⟩ ∧
      links.connect config endpoint =
        { links with
          connections := [⟨endpoint, core⟩]
          nextTcpClientId :=
            if isTcpServer cfg then (links.nextTcpClientId + 1) % (usizeMax + 1) else links.nextTcpClientId } := by
  obtain ⟨ctx, found, index, filters⟩ := spawnedEndpoint_configured config endpoint cfg given
  simp only [Links.connect, found, serves_transport, Links.liveOf, idle]
  cases isTcpServer cfg with
  | true => exact ⟨_, filters, rfl, rfl, rfl⟩
  | false => exact ⟨_, filters, rfl, congrArg EndpointId.mk index, rfl⟩

theorem reconnect_router (config : Config) (ahash : List UInt8 → UInt64) (links : Links) (connection endpoint : Nat)
    (sooner : List (LinkStep M)) (inside : sooner <+: [.disconnect connection, .connect endpoint]) :
    (links.run config ahash sooner).router = links.router := by
  have prefixes : sooner ∈ [[], [.disconnect connection], [.disconnect connection, .connect endpoint]] :=
    (List.mem_inits ..).mpr inside
  simp only [List.mem_cons, List.not_mem_nil, or_false] at prefixes
  rcases prefixes with rfl | rfl | rfl
  · rfl
  · rfl
  · exact (connect_connections config (links.disconnect connection) endpoint).1

def visits (M : Type) (endpoint n : Nat) : List (LinkStep M) :=
  (List.replicate n [.connect endpoint, .disconnect 0]).flatten

theorem run_visit (config : Config) (ahash : List UInt8 → UInt64) (endpoint : Nat) (cfg : EndpointConfig)
    (given : config.endpoint[endpoint]? = some cfg) (server : isTcpServer cfg = true) (links : Links)
    (idle : links.connections = []) (n : Nat) :
    links.run config ahash (visits M endpoint (n + 1)) =
      Links.run config ahash { links with nextTcpClientId := (links.nextTcpClientId + 1) % (usizeMax + 1) }
        (visits M endpoint n) := by
  obtain ⟨core, _, _, _, opened⟩ := connect_opens config links idle endpoint cfg given
  have visited : (links.step config ahash (M := M) (.connect endpoint)).step config ahash (M := M) (.disconnect 0) =
      { links with nextTcpClientId := (links.nextTcpClientId + 1) % (usizeMax + 1) } := by
    simp only [Links.step, opened, server, Links.disconnect, if_true, List.eraseIdx_cons_zero]
    rw [← idle]
  rw [visits, List.replicate_succ, List.flatten_cons, ← visited]
  rfl

theorem run_visits (config : Config) (ahash : List UInt8 → UInt64) (endpoint : Nat) (cfg : EndpointConfig)
    (given : config.endpoint[endpoint]? = some cfg) (server : isTcpServer cfg = true) (links : Links)
    (idle : links.connections = []) (n : Nat) :
    links.run config ahash (visits M endpoint (n + 1)) =
      { links with nextTcpClientId := (links.nextTcpClientId + (n + 1)) % (usizeMax + 1) } := by
  induction n generalizing links with
  | zero => exact run_visit config ahash endpoint cfg given server links idle 0
  | succ n ih =>
    rw [run_visit config ahash endpoint cfg given server links idle,
      ih { links with nextTcpClientId := (links.nextTcpClientId + 1) % (usizeMax + 1) } idle]
    simp only [Nat.mod_add_mod]
    rw [Nat.add_assoc, Nat.add_comm 1]

theorem visits_reach (nextTcpClientId clientId : Nat) (fits : clientId ≤ usizeMax) :
    ∃ n, (nextTcpClientId + (n + 1)) % (usizeMax + 1) = clientId := by
  refine ⟨clientId + usizeMax - nextTcpClientId % (usizeMax + 1), ?_⟩
  simp only [usizeMax] at fits ⊢
  omega

theorem ids_apart (configured i j clientId : Nat) (insideI : i < configured) (insideJ : j < configured)
    (behind : configured ≤ clientId) (serverI serverJ : Bool)
    (server : serverI = true ∨ serverJ = true) :
    let idI := if serverI then clientId else i
    let idJ := if serverJ then (if serverI then (clientId + 1) % (usizeMax + 1) else clientId) else j
    idJ ≠ idI ∧ (configured ≤ idI ∨ configured ≤ idJ) := by
  simp only [usizeMax]
  cases serverI <;> cases serverJ <;> simp at server ⊢ <;> omega

section Unshared

variable (config : Config) (ahash : List UInt8 → UInt64) (nextTcpClientId i j : Nat) (cfgI cfgJ : EndpointConfig)
  (givenI : config.endpoint[i]? = some cfgI) (givenJ : config.endpoint[j]? = some cfgJ) (frame : MavlinkFrame M)
  (passed : passes cfgI.filters frame)

include givenI passed

theorem first_frame_queued (clientId : Nat) :
    ∃ core : EndpointCore, core.id = ⟨if isTcpServer cfgI then clientId else i⟩ ∧
      let idle := { Links.start config nextTcpClientId with nextTcpClientId := clientId }
      let before := idle.run config ahash [.connect i, .incoming 0 frame 0 0, .recvRouteUpdate]
      before.router.routingTable = registeredTable config ∧
        before.router.batch = [observed core frame 0] ∧ before.senders = [i] ∧
        before.connections = [⟨i, core⟩] ∧
        before.nextTcpClientId = if isTcpServer cfgI then (clientId + 1) % (usizeMax + 1) else clientId := by
  obtain ⟨core, filters, learns, id, opened⟩ := connect_opens config
    { Links.start config nextTcpClientId with nextTcpClientId := clientId } rfl i cfgI givenI
  have updates := handleIncomingFrame_observes ahash core frame 0 0 (Links.start config nextTcpClientId).router
    (filters ▸ passed) (ConcurrentDedup.new_passes ahash _ _) learns (registeredTable_system config _) rfl
    (show 0 < routeUpdateQueueCapacity by decide)
  obtain ⟨table, batch, applying, _⟩ :=
    handleIncomingFrame_routes ahash core frame 0 0 (Links.start config nextTcpClientId).router
  have received := recvRouteUpdate_first (M := M) ahash
    (core.handleIncomingFrame ahash frame 0 0 (Links.start config nextTcpClientId).router) applying batch
    (observed core frame 0) [] (by rw [updates]; rfl)
  refine ⟨core, id, ?_⟩
  simp only [Links.run, List.foldl_cons, List.foldl_nil, Links.step, opened, Links.incoming, List.getElem?_cons_zero]
  rw [received, updates]
  exact ⟨table, rfl, rfl, trivial, trivial⟩

include givenJ

-- A server gives its clients ids that spawn_all has not registered, so the frame is not shared.
theorem server_unshared (fits : config.endpoint.length ≤ usizeMax)
    (server : isTcpServer cfgI = true ∨ isTcpServer cfgJ = true) :
    ¬SharesRoutes M config ahash nextTcpClientId i j := by
  intro shares
  let clientId := config.endpoint.length
  have fresh : ∃ visited : List (LinkStep M), (Links.start config nextTcpClientId).run config ahash visited =
      { Links.start config nextTcpClientId with nextTcpClientId := clientId } := by
    obtain ⟨n, reached⟩ := visits_reach nextTcpClientId clientId fits
    rw [← reached]
    rcases server with server | server
    · exact ⟨_, run_visits config ahash i cfgI givenI server (Links.start config nextTcpClientId) rfl n⟩
    · exact ⟨_, run_visits config ahash j cfgJ givenJ server (Links.start config nextTcpClientId) rfl n⟩
  obtain ⟨visited, idle⟩ := fresh
  obtain ⟨coreI, idI, table, batch, senders, connections, later⟩ :=
    first_frame_queued config ahash nextTcpClientId i cfgI givenI frame passed clientId
  have reached : (Links.start config nextTcpClientId).run config ahash
        (visited ++ [.connect i, .incoming 0 frame 0 0, .recvRouteUpdate]) =
      Links.run config ahash { Links.start config nextTcpClientId with nextTcpClientId := clientId }
        [.connect i, .incoming 0 frame 0 0, .recvRouteUpdate] := by
    rw [← idle]
    exact List.foldl_append
  generalize Links.run config ahash { Links.start config nextTcpClientId with nextTcpClientId := clientId }
    [.connect i, .incoming 0 frame 0 0, .recvRouteUpdate] = before at *
  let applied := before.step config ahash (.applyRouteUpdate (M := M) 0)
  have learned : applied.router.routingTable = (registeredTable config).update coreI.id frame.header.systemId
      frame.header.componentId 0 0 := by
    simp only [applied, Links.step, RouterOp.apply, batch, table, observed]
  have heard (sysid : UInt8) (id : EndpointId) :
      HeardBy applied.router.routingTable sysid id ↔ sysid = frame.header.systemId ∧ id = coreI.id := by
    rw [learned]
    exact first_update_heardBy config coreI.id frame.header.systemId frame.header.componentId 0 0 sysid id
  obtain ⟨coreJ, _, _, idJ, opened⟩ := connect_opens config (applied.disconnect 0)
    (by simp only [applied, Links.step, Links.disconnect, connections, List.eraseIdx_cons_zero]) j cfgJ givenJ
  have sent := shares (visited ++ [.connect i, .incoming 0 frame 0 0, .recvRouteUpdate]) [.disconnect 0, .connect j] 0
    (observed coreI frame 0)
  rw [reached] at sent
  have answered := sent (by rw [senders]; rfl) (by rw [batch]; rfl) (by
      intro sooner inside
      rw [reconnect_router config ahash applied 0 j sooner inside]
      obtain ⟨entry, found, _⟩ := (heard frame.header.systemId coreI.id).mpr ⟨rfl, rfl⟩
      exact Option.isSome_iff_exists.mpr ⟨entry, found⟩)
    ⟨j, coreJ⟩ (by
      apply List.mem_filter.mpr
      refine ⟨?_, by simp⟩
      change _ ∈ ((applied.disconnect 0).connect config j).connections
      rw [opened]
      exact List.mem_singleton_self _)
  rw [reconnect_router config ahash applied 0 j _ List.prefix_rfl] at answered
  have after : (applied.disconnect 0).nextTcpClientId =
      if isTcpServer cfgI then (clientId + 1) % (usizeMax + 1) else clientId := later
  obtain ⟨other, outside⟩ := ids_apart config.endpoint.length i j clientId (List.getElem?_eq_some_iff.mp givenI).1
    (List.getElem?_eq_some_iff.mp givenJ).1 (Nat.le_refl _) (isTcpServer cfgI) (isTcpServer cfgJ) server
  rw [after] at idJ
  have unsent := ungrouped_unsent config applied.router.routingTable (by rw [learned]; rfl) coreI.id coreJ.id
    (fun sysid id known => ((heard sysid id).mp known).2) (by simpa [idI, idJ] using other)
    (by simpa [idI, idJ] using outside) frame.header.systemId passed.1
  exact Bool.false_ne_true (unsent.symm.trans answered)

end Unshared

theorem group_shares_routes (config : Config) (fits : config.endpoint.length ≤ usizeMax)
    (ahash : List UInt8 → UInt64) (nextTcpClientId i j : Nat)
    (cfgI cfgJ : EndpointConfig) (givenI : config.endpoint[i]? = some cfgI) (givenJ : config.endpoint[j]? = some cfgJ)
    (group : String) (groupI : cfgI.group = some group) (groupJ : cfgJ.group = some group) :
    SharesRoutes M config ahash nextTcpClientId i j ↔
      (isTcpServer cfgI = false ∧ isTcpServer cfgJ = false) ∨ ∀ frame : MavlinkFrame M, ¬passes cfgI.filters frame := by
  constructor
  · intro shares
    by_contra neither
    rw [not_or, not_and_or, Bool.not_eq_false, Bool.not_eq_false] at neither
    obtain ⟨server, audible⟩ := neither
    obtain ⟨frame, passed⟩ := not_forall_not.mp audible
    exact server_unshared config ahash nextTcpClientId i j cfgI cfgJ givenI givenJ frame passed fits server shares
  · rintro (⟨clientI, clientJ⟩ | silent)
    · exact clients_share config ahash nextTcpClientId i j cfgI cfgJ givenI givenJ group groupI groupJ clientI clientJ
    · exact silent_shares config ahash nextTcpClientId i j cfgI givenI silent

def redundantLinks : Config where
  endpoint :=
    [.udp "0.0.0.0:14550" .server 5 {} (some "links"), .serial "/dev/ttyUSB0" (.fixed 57600) .none {} (some "links"),
      .tcp "0.0.0.0:5760" .server {} (some "links")]

theorem redundantLinks_valid : redundantLinks.validate = .ok () := by
  decide +kernel

theorem group_shares_routes_redundant : SharesRoutes CommonMessage redundantLinks sampleHash 10000 0 1 :=
  (group_shares_routes redundantLinks (by decide) sampleHash 10000 0 1 _ _ rfl rfl "links" rfl rfl).mpr
    (.inl ⟨rfl, rfl⟩)

-- The clients of the third endpoint are left out.
theorem server_clients_left_out :
    ¬∀ (config : Config) (i j : Nat) (cfgI cfgJ : EndpointConfig) (group : String), config.validate = .ok () →
      config.endpoint[i]? = some cfgI → config.endpoint[j]? = some cfgJ → cfgI.group = some group →
      cfgJ.group = some group → SharesRoutes CommonMessage config sampleHash 10000 i j := by
  intro claimed
  apply server_unshared redundantLinks sampleHash 10000 0 2 _ _ rfl rfl sampleFrame ⟨by decide, by decide⟩ (by decide)
    (.inr rfl)
  exact claimed redundantLinks 0 2 _ _ "links" redundantLinks_valid rfl rfl rfl rfl

end MavRouter.Endpoints
