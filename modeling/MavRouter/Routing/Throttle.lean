import MavRouter.Routing.Answers

set_option autoImplicit false

namespace MavRouter.Routing

open Maps Sightings RoutingTable

inductive IngressOp where
  | observe (endpointId : EndpointId) (sysid compid : UInt8) (now clock : Instant)
  | prune (now : Instant) (maxAge : Duration)

namespace IngressOp

def observedAt : IngressOp → Option Instant
  | .observe _ _ _ now _ => some now
  | .prune _ _ => none

def apply (table : RoutingTable) : IngressOp → RoutingTable
  | .observe endpointId sysid compid now clock =>
    if table.needsUpdateForEndpoint endpointId sysid compid now then
      table.update endpointId sysid compid now clock
    else table
  | .prune now maxAge => table.prune now maxAge

def run (table : RoutingTable) (ops : List IngressOp) : RoutingTable := ops.foldl apply table

end IngressOp

-- The refresh interval of the throttle bounds how far a time stamp lags behind an observation.
def throttle : Duration := Duration.fromSecs 1

theorem throttle_pos : 0 < throttle := by decide

structure Effective (table : RoutingTable) (endpointId : EndpointId) (sysid compid : UInt8) (seen : Instant) :
    Prop where
  wellFormed : WellFormed table
  component : Tracks throttle (abs table).routes (sysid, compid) endpointId seen
  system : Tracks throttle (abs table).sysRoutes sysid endpointId seen

theorem observe_effective (table : RoutingTable) (wellFormed : WellFormed table) (endpointId : EndpointId)
    (sysid compid : UInt8) (now clock : Instant) :
    Effective (IngressOp.apply table (.observe endpointId sysid compid now clock)) endpointId sysid compid now := by
  rw [IngressOp.apply]
  by_cases needed : table.needsUpdateForEndpoint endpointId sysid compid now = true
  · rw [if_pos needed]
    have learned := abs_apply table (.update endpointId sysid compid now clock) wellFormed
    rw [TableOp.apply] at learned
    refine ⟨apply_wellFormed table (.update endpointId sysid compid now clock) wellFormed, ?_, ?_⟩ <;> rw [learned]
    · exact see_tracks throttle throttle_pos _ _ _ _
    · exact see_tracks throttle throttle_pos _ _ _ _
  · rw [if_neg needed]
    rw [needsUpdate_iff, Reference.NeedsUpdate, not_not] at needed
    exact ⟨wellFormed, needed.1, needed.2⟩

theorem effective_table_op (table : RoutingTable) (endpointId : EndpointId) (sysid compid : UInt8) (seen : Instant)
    (effective : Effective table endpointId sysid compid seen) (op : TableOp)
    (later : ∀ ep s c now clock, op = .update ep s c now clock → seen ≤ now)
    (young : ∀ now maxAge, op = .prune now maxAge → now - seen + throttle ≤ maxAge) :
    Effective (TableOp.apply table op) endpointId sysid compid seen := by
  refine ⟨apply_wellFormed table op effective.wellFormed, ?_, ?_⟩ <;> rw [abs_apply table op effective.wellFormed]
  · apply tracks_apply throttle throttle_pos _ _ _ _ effective.component (componentView op)
    · intro key observer now reported
      obtain ⟨clock, rfl⟩ := componentView_seen op _ _ _ reported
      exact later observer key.1 key.2 now clock rfl
    · intro now maxAge expires
      exact young now maxAge ((componentView_expire op now maxAge).mp expires)
  · apply tracks_apply throttle throttle_pos _ _ _ _ effective.system (systemView op)
    · intro s observer now reported
      obtain ⟨c, clock, rfl⟩ := systemView_seen op _ _ _ reported
      exact later observer s c now clock rfl
    · intro now maxAge expires
      exact young now maxAge ((systemView_expire op now maxAge).mp expires)

theorem effective_apply (table : RoutingTable) (endpointId : EndpointId) (sysid compid : UInt8) (seen : Instant)
    (effective : Effective table endpointId sysid compid seen) (op : IngressOp)
    (later : ∀ now, op.observedAt = some now → seen ≤ now)
    (young : ∀ now maxAge, op = .prune now maxAge → now - seen + throttle ≤ maxAge) :
    Effective (op.apply table) endpointId sysid compid seen := by
  cases op with
  | observe ep s c now clock =>
    rw [IngressOp.apply]
    split_ifs
    · apply effective_table_op table endpointId sysid compid seen effective (.update ep s c now clock)
      · intro ep' s' c' now' clock' same
        rw [TableOp.update.injEq] at same
        exact same.2.2.2.1 ▸ later now rfl
      · simp
    · exact effective
  | prune now maxAge =>
    apply effective_table_op table endpointId sysid compid seen effective (.prune now maxAge)
    · simp
    · intro now' maxAge' same
      rw [TableOp.prune.injEq] at same
      obtain ⟨rfl, rfl⟩ := same
      exact young now maxAge rfl

theorem effective_sends (table : RoutingTable) (endpointId : EndpointId) (sysid compid : UInt8) (seen : Instant)
    (effective : Effective table endpointId sysid compid seen) :
    table.shouldSend endpointId sysid compid = true ∧ table.shouldSend endpointId sysid 0 = true := by
  obtain ⟨comp, foundComp, insideComp, _⟩ := effective.component
  obtain ⟨sys, foundSys, insideSys, _⟩ := effective.system
  simp only [shouldSend_iff, Reference.ShouldSend]
  constructor
  · refine .inr (.inr ⟨sys, foundSys, .inl ?_⟩)
    rw [Reference.deciding, foundComp]
    split_ifs
    · exact insideSys
    · exact insideComp
  · exact .inr (.inr ⟨sys, foundSys, .inl (by rw [Reference.deciding, if_pos rfl]; exact insideSys)⟩)

theorem run_wellFormed (ops : List IngressOp) (table : RoutingTable) (wellFormed : WellFormed table) :
    WellFormed (IngressOp.run table ops) := by
  induction ops generalizing table with
  | nil => exact wellFormed
  | cons op rest ih =>
    apply ih
    cases op with
    | observe ep s c now clock =>
      rw [IngressOp.apply]
      split_ifs
      · exact apply_wellFormed table (.update ep s c now clock) wellFormed
      · exact wellFormed
    | prune now maxAge => exact apply_wellFormed table (.prune now maxAge) wellFormed

theorem run_effective (ops : List IngressOp) (table : RoutingTable) (endpointId : EndpointId) (sysid compid : UInt8)
    (seen : Instant) (effective : Effective table endpointId sysid compid seen)
    (later : ∀ now ∈ ops.filterMap IngressOp.observedAt, seen ≤ now)
    (young : ∀ now maxAge, IngressOp.prune now maxAge ∈ ops → now - seen + throttle ≤ maxAge) :
    Effective (IngressOp.run table ops) endpointId sysid compid seen := by
  induction ops generalizing table with
  | nil => exact effective
  | cons op rest ih =>
    apply ih
    · apply effective_apply table endpointId sysid compid seen effective op
      · intro now observed
        exact later now (by simp [observed])
      · rintro now maxAge rfl
        exact young now maxAge (List.mem_cons_self ..)
    · intro now member
      obtain ⟨op', inside, observed⟩ := List.mem_filterMap.mp member
      exact later now (List.mem_filterMap.mpr ⟨op', List.mem_cons_of_mem _ inside, observed⟩)
    · exact fun now maxAge member => young now maxAge (List.mem_cons_of_mem _ member)

theorem observation_stays_effective (before after : List IngressOp) (endpointId : EndpointId) (sysid compid : UInt8)
    (seen clock : Instant)
    (sorted : ((before ++ .observe endpointId sysid compid seen clock :: after).filterMap
      IngressOp.observedAt).Pairwise (· ≤ ·))
    (lenient : ∀ now maxAge, IngressOp.prune now maxAge ∈ after → now - seen + Duration.fromSecs 1 ≤ maxAge) :
    let table := IngressOp.run RoutingTable.new (before ++ .observe endpointId sysid compid seen clock :: after)
    table.shouldSend endpointId sysid compid = true ∧ table.shouldSend endpointId sysid 0 = true := by
  intro table
  have split : table = IngressOp.run (IngressOp.apply (IngressOp.run RoutingTable.new before)
      (.observe endpointId sysid compid seen clock)) after := by
    simp only [table, IngressOp.run, List.foldl_append, List.foldl_cons]
  have start := observe_effective (IngressOp.run RoutingTable.new before)
    (run_wellFormed before _ new_wellFormed) endpointId sysid compid seen clock
  have later : ∀ now ∈ after.filterMap IngressOp.observedAt, seen ≤ now := by
    have first : IngressOp.observedAt (.observe endpointId sysid compid seen clock) = some seen := rfl
    rw [List.filterMap_append, List.filterMap_cons_some first, List.pairwise_append, List.pairwise_cons] at sorted
    exact sorted.2.1.1
  rw [split]
  exact effective_sends _ _ _ _ _ (run_effective after _ endpointId sysid compid seen start later lenient)

-- The second observation is throttled, and the prune looks only at the time stamp of the first.
theorem observation_stays_effective_throttled :
    let table := IngressOp.run RoutingTable.new ([.observe ⟨0⟩ 1 1 0 0] ++ .observe ⟨0⟩ 1 1 900000000 0 ::
      [.prune 5000000000 5100000000])
    table.shouldSend ⟨0⟩ 1 1 = true ∧ table.shouldSend ⟨0⟩ 1 0 = true :=
  observation_stays_effective [.observe ⟨0⟩ 1 1 0 0] [.prune 5000000000 5100000000] ⟨0⟩ 1 1 900000000 0
    (by decide)
    (by
      intro now maxAge member
      rw [List.mem_singleton, IngressOp.prune.injEq] at member
      obtain ⟨rfl, rfl⟩ := member
      decide)

end MavRouter.Routing
