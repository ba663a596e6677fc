import MavRouter.Routing.Delivery

set_option autoImplicit false

namespace MavRouter.Routing

open Maps Sightings RoutingTable

def Refreshed (reports : TableOp → Instant → Prop) (ops : List TableOp) : Prop :=
  ∀ earlier now maxAge, earlier ++ [.prune now maxAge] <+: ops →
    ∃ report ∈ earlier, ∃ time, reports report time ∧ now ≤ time + maxAge

def reportsComponent (sysid compid : UInt8) (op : TableOp) (time : Instant) : Prop :=
  ∃ endpointId clock, op = .update endpointId sysid compid time clock

def reportsSystem (sysid : UInt8) (op : TableOp) (time : Instant) : Prop :=
  ∃ endpointId compid clock, op = .update endpointId sysid compid time clock

theorem componentView_reports (op : TableOp) (sysid compid : UInt8) (endpointId : EndpointId) (time : Instant)
    (seen : componentView op = some (.seen (sysid, compid) endpointId time)) :
    reportsComponent sysid compid op time := by
  obtain ⟨clock, rfl⟩ := componentView_seen op _ _ _ seen
  exact ⟨endpointId, clock, rfl⟩

theorem systemView_reports (op : TableOp) (sysid : UInt8) (endpointId : EndpointId) (time : Instant)
    (seen : systemView op = some (.seen sysid endpointId time)) : reportsSystem sysid op time := by
  obtain ⟨compid, clock, rfl⟩ := systemView_seen op _ _ _ seen
  exact ⟨endpointId, compid, clock, rfl⟩

section View

variable {K : Type} [DecidableEq K] {view : TableOp → Option (Event K EndpointId)} {key : K}
  {reports : TableOp → Instant → Prop}

theorem view_listed (expires : ∀ now maxAge, view (.prune now maxAge) = some (.expire now maxAge))
    (seen : ∀ op observer time, view op = some (.seen key observer time) → reports op time)
    (ops : List TableOp) (sighting : Sighting EndpointId) (found : Sightings.run view ops key = some sighting)
    (endpointId : EndpointId) (inside : endpointId ∈ sighting.observers) :
    ∃ older report newer time, ops = older ++ report :: newer ∧ view report = some (.seen key endpointId time) ∧
      Refreshed reports (report :: newer) := by
  obtain ⟨older, report, newer, time, split, reported, kept, _⟩ := run_listed view ops _ _ found endpointId inside
  refine ⟨older, report, newer, time, split, reported, ?_⟩
  intro earlier now maxAge prunes
  obtain ⟨latest, member, observer, at_, sees, young⟩ := kept earlier _ prunes now maxAge (expires now maxAge)
  exact ⟨latest, member, at_, seen latest observer at_ sees, young⟩

theorem view_fresh (seen : ∀ op observer time, view op = some (.seen key observer time) → reports op time)
    (ops : List TableOp) (now : Instant) (maxAge : Duration) (sighting : Sighting EndpointId)
    (found : (Sightings.run view ops).expire now maxAge key = some sighting) :
    ∃ report ∈ ops, ∃ time, reports report time ∧ now ≤ time + maxAge := by
  obtain ⟨before, young⟩ := (expire_eq_some ..).mp found
  obtain ⟨report, member, observer, _, reported⟩ := run_lastSeen view ops _ sighting before
  exact ⟨report, member, sighting.lastSeen, seen report observer _ reported, Nat.sub_le_iff_le_add'.mp young⟩

end View

theorem component_listed (ops : List TableOp) (sysid compid : UInt8) (sighting : Sighting EndpointId)
    (found : (Reference.run ops).routes (sysid, compid) = some sighting) (endpointId : EndpointId)
    (inside : endpointId ∈ sighting.observers) :
    ∃ older newer time clock, ops = older ++ .update endpointId sysid compid time clock :: newer ∧
      Refreshed (reportsComponent sysid compid) (.update endpointId sysid compid time clock :: newer) := by
  rw [Reference.run_routes] at found
  obtain ⟨older, report, newer, time, split, seen, refreshed⟩ :=
    view_listed (fun _ _ => rfl) (fun op => componentView_reports op sysid compid) ops _ found endpointId inside
  obtain ⟨clock, rfl⟩ := componentView_seen report _ _ _ seen
  exact ⟨older, newer, time, clock, split, refreshed⟩

theorem system_listed (ops : List TableOp) (sysid : UInt8) (sighting : Sighting EndpointId)
    (found : (Reference.run ops).sysRoutes sysid = some sighting) (endpointId : EndpointId)
    (inside : endpointId ∈ sighting.observers) :
    ∃ older newer compid time clock, ops = older ++ .update endpointId sysid compid time clock :: newer ∧
      Refreshed (reportsSystem sysid) (.update endpointId sysid compid time clock :: newer) := by
  rw [Reference.run_sysRoutes] at found
  obtain ⟨older, report, newer, time, split, seen, refreshed⟩ :=
    view_listed (fun _ _ => rfl) (fun op => systemView_reports op sysid) ops _ found endpointId inside
  obtain ⟨compid, clock, rfl⟩ := systemView_seen report _ _ _ seen
  exact ⟨older, newer, compid, time, clock, split, refreshed⟩

theorem run_prune (ops : List TableOp) (now : Instant) (maxAge : Duration) :
    Reference.run (ops ++ [.prune now maxAge]) = (Reference.run ops).apply (.prune now maxAge) := by
  simp [Reference.run]

theorem component_fresh (ops : List TableOp) (now : Instant) (maxAge : Duration) (sysid compid : UInt8)
    (sighting : Sighting EndpointId)
    (found : (Reference.run (ops ++ [.prune now maxAge])).routes (sysid, compid) = some sighting) :
    ∃ report ∈ ops, ∃ time, reportsComponent sysid compid report time ∧ now ≤ time + maxAge := by
  rw [run_prune, Reference.apply, Reference.run_routes] at found
  exact view_fresh (fun op => componentView_reports op sysid compid) ops now maxAge sighting found

theorem system_fresh (ops : List TableOp) (now : Instant) (maxAge : Duration) (sysid : UInt8)
    (sighting : Sighting EndpointId)
    (found : (Reference.run (ops ++ [.prune now maxAge])).sysRoutes sysid = some sighting) :
    ∃ report ∈ ops, ∃ time, reportsSystem sysid report time ∧ now ≤ time + maxAge := by
  rw [run_prune, Reference.apply, Reference.run_sysRoutes] at found
  exact view_fresh (fun op => systemView_reports op sysid) ops now maxAge sighting found

theorem component_abs (ops : List TableOp) (sysid compid : UInt8) (entry : RouteEntry)
    (found : (RoutingTable.new.run ops).component sysid compid = some entry) :
    (Reference.run ops).routes (sysid, compid) = some (absEntry entry) := by
  rw [← (run_refines ops).2]
  exact congrArg (Option.map absEntry) found

theorem system_abs (ops : List TableOp) (sysid : UInt8) (entry : RouteEntry)
    (found : (RoutingTable.new.run ops).system sysid = some entry) :
    (Reference.run ops).sysRoutes sysid = some (absEntry entry) := by
  rw [← (run_refines ops).2]
  exact congrArg (Option.map absEntry) found

theorem prune_leaves_fresh_entries (ops : List TableOp) (now : Instant) (maxAge : Duration) :
    let pruned := ops ++ [.prune now maxAge]
    let table := RoutingTable.new.run pruned
    (∀ sysid compid entry, table.component sysid compid = some entry →
      (∃ report ∈ ops, ∃ time, reportsComponent sysid compid report time ∧ now ≤ time + maxAge) ∧
      ∀ endpointId ∈ entry.endpoints, ∃ older newer time clock,
        pruned = older ++ .update endpointId sysid compid time clock :: newer ∧
        Refreshed (reportsComponent sysid compid) (.update endpointId sysid compid time clock :: newer)) ∧
    (∀ sysid entry, table.system sysid = some entry →
      (∃ report ∈ ops, ∃ time, reportsSystem sysid report time ∧ now ≤ time + maxAge) ∧
      ∀ endpointId ∈ entry.endpoints, ∃ older newer compid time clock,
        pruned = older ++ .update endpointId sysid compid time clock :: newer ∧
        Refreshed (reportsSystem sysid) (.update endpointId sysid compid time clock :: newer)) ∧
    ∀ endpointId sysid compid, sysid ≠ 0 → table.isSnifferEndpoint endpointId = false →
      table.config.endpointGroups.lookup endpointId = none → table.shouldSend endpointId sysid compid = true →
      (∃ c, Observed ops endpointId sysid c) ∧
      ∃ report ∈ ops, ∃ time, reportsSystem sysid report time ∧ now ≤ time + maxAge := by
  intro pruned table
  refine ⟨?_, ?_, ?_⟩
  · intro sysid compid entry found
    have abstract := component_abs pruned sysid compid entry found
    refine ⟨component_fresh ops now maxAge sysid compid _ abstract, ?_⟩
    intro endpointId inside
    exact component_listed pruned sysid compid _ abstract endpointId ((HashSet.mem_toFinset _ _).mpr inside)
  · intro sysid entry found
    have abstract := system_abs pruned sysid entry found
    refine ⟨system_fresh ops now maxAge sysid _ abstract, ?_⟩
    intro endpointId inside
    exact system_listed pruned sysid _ abstract endpointId ((HashSet.mem_toFinset _ _).mpr inside)
  · intro endpointId sysid compid nonzero ordinary ungrouped sent
    have refines : abs table = Reference.run pruned := (run_refines pruned).2
    have strangers : ∀ observers, (Reference.run pruned).Reaches observers endpointId → endpointId ∈ observers := by
      rintro observers (own | ⟨group, grouped, _⟩)
      · exact own
      · rw [← refines] at grouped
        exact absurd (ungrouped.symm.trans grouped) (by simp)
    have before (c : UInt8) (observed : Observed pruned endpointId sysid c) : Observed ops endpointId sysid c := by
      obtain ⟨time, clock, member⟩ := observed
      exact ⟨time, clock, by simpa [pruned] using member⟩
    rw [shouldSend_iff, refines] at sent
    rcases sent with sniffer | everyone | ⟨entry, found, reaches⟩
    · rw [← refines, ← isSnifferEndpoint_iff, ordinary] at sniffer
      cases sniffer
    · exact absurd everyone nonzero
    · refine ⟨?_, system_fresh ops now maxAge sysid entry found⟩
      have inside := strangers _ reaches
      rw [Reference.deciding] at inside
      split_ifs at inside with all
      · obtain ⟨c, observed⟩ := system_observed pruned sysid entry found endpointId inside
        exact ⟨c, before c observed⟩
      · cases known : (Reference.run pruned).routes (sysid, compid) with
        | none =>
          rw [known, Option.getD_none] at inside
          obtain ⟨c, observed⟩ := system_observed pruned sysid entry found endpointId inside
          exact ⟨c, before c observed⟩
        | some comp =>
          rw [known, Option.getD_some] at inside
          exact ⟨compid, before compid (component_observed pruned sysid compid comp known endpointId inside)⟩

-- Endpoint 1 keeps the entry of component (1, 1) fresh after endpoint 0 fell silent.
def sharedRun : List TableOp := [.update ⟨0⟩ 1 1 0 0, .update ⟨1⟩ 1 1 10 10]

theorem silent_endpoint_survives_prune :
    let table := RoutingTable.new.run (sharedRun ++ [.prune 11 5])
    ¬(∀ sysid compid entry, table.component sysid compid = some entry → ∀ endpointId ∈ entry.endpoints,
        ∃ time clock, TableOp.update endpointId sysid compid time clock ∈ sharedRun ∧ 11 ≤ time + 5) ∧
      table.isSnifferEndpoint ⟨0⟩ = false ∧ table.config.endpointGroups.lookup ⟨0⟩ = none ∧
      table.shouldSend ⟨0⟩ 1 1 = true := by
  refine ⟨?_, by decide +kernel, by decide +kernel, by decide +kernel⟩
  intro perPath
  have kept : ((RoutingTable.new.run (sharedRun ++ [.prune 11 5])).component 1 1).any
      (fun entry => decide (⟨0⟩ ∈ entry.endpoints)) = true := by decide +kernel
  obtain ⟨entry, found, inside⟩ := (Option.any_eq_true _ _).mp kept
  obtain ⟨time, clock, member, young⟩ := perPath 1 1 entry found ⟨0⟩ (by simpa using inside)
  simp only [sharedRun, List.mem_cons, TableOp.update.injEq, List.not_mem_nil, or_false] at member
  rcases member with ⟨_, _, _, rfl, _⟩ | ⟨wrong, _⟩
  · exact absurd young (by decide)
  · simp at wrong

end MavRouter.Routing
