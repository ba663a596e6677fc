import MavRouter.Routing.Answers

set_option autoImplicit false

namespace MavRouter.Routing

open Maps Sightings RoutingTable

def RouteEntry.listed (entry : RouteEntry) : Finset EndpointId := HashSet.toFinset entry.endpoints

structure SameRoutes (table other : RoutingTable) : Prop where
  components : ∀ sysid compid,
    (table.component sysid compid).map RouteEntry.listed = (other.component sysid compid).map RouteEntry.listed
  systems : ∀ sysid, (table.system sysid).map RouteEntry.listed = (other.system sysid).map RouteEntry.listed

theorem listing_components (table : RoutingTable) (sysid compid : UInt8) :
    (abs table).routes.listing (sysid, compid) = (table.component sysid compid).map RouteEntry.listed := by
  simp only [Board.listing, abs, component, absMap, Option.map_map]
  rfl

theorem listing_systems (table : RoutingTable) (sysid : UInt8) :
    (abs table).sysRoutes.listing sysid = (table.system sysid).map RouteEntry.listed := by
  simp only [Board.listing, abs, system, absMap, Option.map_map]
  rfl

namespace Reference

structure SameListing (reference other : Reference) : Prop where
  routes : reference.routes.listing = other.routes.listing
  sysRoutes : reference.sysRoutes.listing = other.sysRoutes.listing
  policy : reference.policy = other.policy

theorem shouldSend_listing (reference : Reference) (endpointId : EndpointId) (sysid compid : UInt8) :
    reference.ShouldSend endpointId sysid compid ↔
      (∃ sniffer ∈ reference.policy.sniffers, endpointId ∈ (reference.sysRoutes.listing sniffer).getD ∅) ∨
      sysid = 0 ∨ ∃ observers, reference.sysRoutes.listing sysid = some observers ∧
        reference.Reaches (if compid = 0 then observers else (reference.routes.listing (sysid, compid)).getD observers)
          endpointId := by
  simp only [ShouldSend, Sniffer, getD_listing]
  have deciding (entry : Sighting EndpointId) : (reference.deciding sysid compid entry).observers =
      if compid = 0 then entry.observers else (reference.routes.listing (sysid, compid)).getD entry.observers := by
    rw [Reference.deciding, Board.listing]
    cases reference.routes (sysid, compid) <;> split_ifs <;> rfl
  simp only [deciding, Board.listing]
  cases reference.sysRoutes sysid <;> simp

variable {reference other : Reference} (same : reference.SameListing other)

include same

theorem SameListing.shouldSend (endpointId : EndpointId) (sysid compid : UInt8) :
    reference.ShouldSend endpointId sysid compid ↔ other.ShouldSend endpointId sysid compid := by
  simp only [shouldSend_listing, same.routes, same.sysRoutes, same.policy, Reaches]

theorem SameListing.totalSystems : reference.totalSystems = other.totalSystems := by
  simp only [Reference.totalSystems, ← isSome_listing, same.sysRoutes]

theorem SameListing.totalRoutes : reference.totalRoutes = other.totalRoutes := by
  simp only [Reference.totalRoutes, ← isSome_listing, same.routes]

theorem SameListing.endpoints : reference.endpoints = other.endpoints := by
  simp only [Reference.endpoints, ← getD_listing, same.routes, same.sysRoutes]

end Reference

theorem sameRoutes_iff (table other : RoutingTable) :
    SameRoutes table other ↔
      (abs table).routes.listing = (abs other).routes.listing ∧
        (abs table).sysRoutes.listing = (abs other).sysRoutes.listing := by
  constructor
  · intro same
    constructor
    · funext key
      rw [listing_components, listing_components, same.components]
    · funext sysid
      rw [listing_systems, listing_systems, same.systems]
  · rintro ⟨routes, sysRoutes⟩
    constructor
    · intro sysid compid
      rw [← listing_components, ← listing_components, routes]
    · intro sysid
      rw [← listing_systems, ← listing_systems, sysRoutes]

theorem SameRoutes.answers {table other : RoutingTable} (same : SameRoutes table other)
    (wellFormed : WellFormed table) (wellFormed' : WellFormed other) (policy : table.config = other.config) :
    (∀ endpointId sysid compid, table.shouldSend endpointId sysid compid = other.shouldSend endpointId sysid compid) ∧
      ∀ timestamp, table.stats timestamp = other.stats timestamp := by
  obtain ⟨routes, sysRoutes⟩ := (sameRoutes_iff table other).mp same
  have listing : (abs table).SameListing (abs other) := ⟨routes, sysRoutes, congrArg absPolicy policy⟩
  constructor
  · intro endpointId sysid compid
    rw [Bool.eq_iff_iff, shouldSend_iff, shouldSend_iff]
    exact listing.shouldSend endpointId sysid compid
  · intro timestamp
    rw [stats_exact table wellFormed, stats_exact other wellFormed', listing.totalSystems, listing.totalRoutes,
      listing.endpoints]

def TableOp.learns : TableOp → Bool
  | .update .. => true
  | _ => false

def Reported (updates : List TableOp) (endpointId : EndpointId) (sysid compid : UInt8) : Prop :=
  ∃ now clock, .update endpointId sysid compid now clock ∈ updates

def Lists (table : RoutingTable) (endpointId : EndpointId) (sysid compid : UInt8) : Prop :=
  endpointId ∈ observersOf ((abs table).routes (sysid, compid)) ∧ endpointId ∈ observersOf ((abs table).sysRoutes sysid)

theorem run_append (table : RoutingTable) (ops more : List TableOp) :
    table.run (ops ++ more) = (table.run ops).run more :=
  List.foldl_append

theorem reports_component (updates : List TableOp) (endpointId : EndpointId) (sysid compid : UInt8) :
    Reports componentView updates (sysid, compid) endpointId ↔ Reported updates endpointId sysid compid := by
  constructor
  · rintro ⟨op, member, now, seen⟩
    obtain ⟨clock, rfl⟩ := componentView_seen op _ _ _ seen
    exact ⟨now, clock, member⟩
  · rintro ⟨now, clock, member⟩
    exact ⟨_, member, now, rfl⟩

theorem reports_system (updates : List TableOp) (endpointId : EndpointId) (sysid : UInt8) :
    Reports systemView updates sysid endpointId ↔ ∃ compid, Reported updates endpointId sysid compid := by
  constructor
  · rintro ⟨op, member, now, seen⟩
    obtain ⟨compid, clock, rfl⟩ := systemView_seen op _ _ _ seen
    exact ⟨compid, now, clock, member⟩
  · rintro ⟨compid, now, clock, member⟩
    exact ⟨_, member, now, rfl⟩

theorem lasting_component (updates : List TableOp) (learns : ∀ op ∈ updates, op.learns = true) :
    Lasting componentView updates := by
  intro op member now maxAge expires
  rw [(componentView_expire op now maxAge).mp expires] at member
  cases learns _ member

theorem lasting_system (updates : List TableOp) (learns : ∀ op ∈ updates, op.learns = true) :
    Lasting systemView updates := by
  intro op member now maxAge expires
  rw [(systemView_expire op now maxAge).mp expires] at member
  cases learns _ member

theorem run_config (updates : List TableOp) (learns : ∀ op ∈ updates, op.learns = true) (table : RoutingTable) :
    (table.run updates).config = table.config := by
  induction updates generalizing table with
  | nil => rfl
  | cons op rest ih =>
    have first := learns op (by simp)
    have later := ih (fun later member => learns later (List.mem_cons_of_mem op member)) (TableOp.apply table op)
    rw [RoutingTable.run] at later ⊢
    rw [List.foldl_cons, later]
    cases op with
    | update endpointId sysid compid now clock => rfl
    | prune now maxAge => cases first
    | setEndpointGroup id group => cases first
    | setSnifferSysids sysids => cases first

theorem table_run_wellFormed (table : RoutingTable) (wellFormed : WellFormed table) (ops : List TableOp) :
    WellFormed (table.run ops) :=
  (Runs.run_simulates TableOp.apply Reference.apply abs WellFormed apply_wellFormed abs_apply ops table wellFormed).1

theorem run_boards (table : RoutingTable) (wellFormed : WellFormed table) (ops : List TableOp) :
    (abs (table.run ops)).routes = ops.foldl (fun board op => board.apply (componentView op)) (abs table).routes ∧
      (abs (table.run ops)).sysRoutes =
        ops.foldl (fun board op => board.apply (systemView op)) (abs table).sysRoutes := by
  have refined : abs (table.run ops) = ops.foldl Reference.apply (abs table) :=
    (Runs.run_simulates TableOp.apply Reference.apply abs WellFormed apply_wellFormed abs_apply ops table wellFormed).2
  rw [refined]
  constructor
  · exact (Runs.run_simulates Reference.apply (fun board op => Board.apply board (componentView op)) Reference.routes
      (fun _ => True) (fun _ _ _ => trivial) (fun _ _ _ => rfl) ops (abs table) trivial).2
  · exact (Runs.run_simulates Reference.apply (fun board op => Board.apply board (systemView op)) Reference.sysRoutes
      (fun _ => True) (fun _ _ _ => trivial) (fun _ _ _ => rfl) ops (abs table) trivial).2

theorem run_lists (table : RoutingTable) (wellFormed : WellFormed table) (updates : List TableOp)
    (learns : ∀ op ∈ updates, op.learns = true) (endpointId : EndpointId) (sysid compid : UInt8)
    (listed : Lists table endpointId sysid compid ∨ Reported updates endpointId sysid compid) :
    Lists (table.run updates) endpointId sysid compid := by
  obtain ⟨routes, sysRoutes⟩ := run_boards table wellFormed updates
  have component := foldl_lists componentView updates (lasting_component updates learns) (abs table).routes
    (sysid, compid)
  have system := foldl_lists systemView updates (lasting_system updates learns) (abs table).sysRoutes sysid
  rw [Lists, routes, sysRoutes, component.2, system.2, reports_component, reports_system]
  exact ⟨listed.imp_left And.left, listed.imp And.right fun reported => ⟨compid, reported⟩⟩

theorem sameRoutes_of_reports (table : RoutingTable) (wellFormed : WellFormed table) (first second : List TableOp)
    (learns : ∀ op ∈ first, op.learns = true) (learns' : ∀ op ∈ second, op.learns = true)
    (covered : ∀ endpointId sysid compid,
      Reported first endpointId sysid compid → Reported second endpointId sysid compid)
    (listed : ∀ endpointId sysid compid,
      Reported second endpointId sysid compid → Lists (table.run first) endpointId sysid compid) :
    SameRoutes (table.run first) (table.run second) := by
  obtain ⟨routes, sysRoutes⟩ := run_boards table wellFormed first
  obtain ⟨routes', sysRoutes'⟩ := run_boards table wellFormed second
  simp only [Lists, routes, sysRoutes] at listed
  rw [sameRoutes_iff, routes, sysRoutes, routes', sysRoutes']
  constructor
  · apply foldl_listing componentView first second (lasting_component _ learns) (lasting_component _ learns')
    · rintro ⟨sysid, compid⟩ endpointId
      rw [reports_component, reports_component]
      exact covered endpointId sysid compid
    · rintro ⟨sysid, compid⟩ endpointId
      rw [reports_component]
      exact fun reported => (listed endpointId sysid compid reported).1
  · apply foldl_listing systemView first second (lasting_system _ learns) (lasting_system _ learns')
    · intro sysid endpointId
      rw [reports_system, reports_system]
      rintro ⟨compid, reported⟩
      exact ⟨compid, covered endpointId sysid compid reported⟩
    · intro sysid endpointId
      rw [reports_system]
      rintro ⟨compid, reported⟩
      exact (listed endpointId sysid compid reported).2

end MavRouter.Routing
