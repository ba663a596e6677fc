import MavRouter.Routing.Answers

set_option autoImplicit false

namespace MavRouter.Routing

open Maps Sightings RoutingTable

def Observed (ops : List TableOp) (endpointId : EndpointId) (sysid compid : UInt8) : Prop :=
  ∃ now clock, TableOp.update endpointId sysid compid now clock ∈ ops

theorem component_observed (ops : List TableOp) (sysid compid : UInt8) (sighting : Sighting EndpointId)
    (found : (Reference.run ops).routes (sysid, compid) = some sighting) (endpointId : EndpointId)
    (inside : endpointId ∈ sighting.observers) : Observed ops endpointId sysid compid := by
  rw [Reference.run_routes] at found
  obtain ⟨older, report, newer, time, split, seen, _⟩ := run_listed componentView ops _ _ found endpointId inside
  obtain ⟨clock, rfl⟩ := componentView_seen report _ _ _ seen
  exact ⟨time, clock, by simp [split]⟩

theorem system_observed (ops : List TableOp) (sysid : UInt8) (sighting : Sighting EndpointId)
    (found : (Reference.run ops).sysRoutes sysid = some sighting) (endpointId : EndpointId)
    (inside : endpointId ∈ sighting.observers) : ∃ compid, Observed ops endpointId sysid compid := by
  rw [Reference.run_sysRoutes] at found
  obtain ⟨older, report, newer, time, split, seen, _⟩ := run_listed systemView ops _ _ found endpointId inside
  obtain ⟨compid, clock, rfl⟩ := systemView_seen report _ _ _ seen
  exact ⟨compid, time, clock, by simp [split]⟩

structure Registered (ops : List TableOp) (policy : Policy) : Prop where
  groupOf : ∀ id group, policy.groupOf id = some group → TableOp.setEndpointGroup id group ∈ ops
  members : ∀ id group, id ∈ policy.members group → TableOp.setEndpointGroup id group ∈ ops
  grouped : ∀ id group, TableOp.setEndpointGroup id group ∈ ops → ∃ current, policy.groupOf id = some current

theorem registered_apply (ops : List TableOp) (policy : Policy) (op : TableOp) (registered : Registered ops policy) :
    Registered (ops ++ [op]) (policy.apply op) := by
  have kept (same : policy.apply op = { policy with sniffers := (policy.apply op).sniffers })
      (other : ∀ id group, op ≠ .setEndpointGroup id group) : Registered (ops ++ [op]) (policy.apply op) := by
    rw [same]
    constructor
    · intro id group found
      exact List.mem_append_left _ (registered.groupOf id group found)
    · intro id group member
      exact List.mem_append_left _ (registered.members id group member)
    · intro id group member
      rcases List.mem_append.mp member with earlier | last
      · exact registered.grouped id group earlier
      · exact absurd (List.mem_singleton.mp last).symm (other id group)
  cases op with
  | update ep sysid compid now clock => exact kept rfl (by simp)
  | prune now maxAge => exact kept rfl (by simp)
  | setSnifferSysids sysids => exact kept rfl (by simp)
  | setEndpointGroup id group =>
    simp only [Policy.apply]
    constructor
    · intro other name found
      by_cases same : other = id
      · subst same
        simp only [Function.update_self, Option.some.injEq] at found
        subst found
        simp
      · simp only [Function.update_of_ne same] at found
        exact List.mem_append_left _ (registered.groupOf other name found)
    · intro other name member
      by_cases same : name = group
      · subst same
        simp only [Function.update_self, Finset.mem_insert] at member
        rcases member with rfl | member
        · simp
        · exact List.mem_append_left _ (registered.members other name member)
      · simp only [Function.update_of_ne same] at member
        exact List.mem_append_left _ (registered.members other name member)
    · intro other name member
      by_cases same : other = id
      · exact ⟨group, by simp [same]⟩
      · have earlier : TableOp.setEndpointGroup other name ∈ ops := by simpa [same] using member
        simpa [same] using registered.grouped other name earlier

theorem run_registered (ops : List TableOp) : Registered ops (Reference.run ops).policy :=
  Runs.run_history Reference.apply Reference.empty (fun ops reference => Registered ops reference.policy)
    ⟨by simp [Reference.empty, Policy.none], by simp [Reference.empty, Policy.none], by simp⟩
    (fun ops op registered => registered_apply ops _ op registered) ops

def SameGroup (table : RoutingTable) (a b : EndpointId) : Prop :=
  ∃ group, table.config.endpointGroups.lookup a = some group ∧ table.config.endpointGroups.lookup b = some group

theorem reaches_observer (ops : List TableOp)
    (single : ∀ id group group', TableOp.setEndpointGroup id group ∈ ops →
      TableOp.setEndpointGroup id group' ∈ ops → group = group')
    (observers : Finset EndpointId) (endpointId : EndpointId)
    (reaches : (Reference.run ops).Reaches observers endpointId) :
    ∃ source ∈ observers, source = endpointId ∨ SameGroup (RoutingTable.new.run ops) source endpointId := by
  have registered := run_registered ops
  rcases reaches with own | ⟨group, grouped, source, inside, member⟩
  · exact ⟨endpointId, own, .inl rfl⟩
  · have joined := registered.members source group member
    obtain ⟨current, found⟩ := registered.grouped source group joined
    have same := single source current group (registered.groupOf source current found) joined
    subst same
    refine ⟨source, inside, .inr ⟨current, ?_, ?_⟩⟩
    · rwa [← (run_refines ops).2] at found
    · rwa [← (run_refines ops).2] at grouped

theorem sent_only_towards_observed (ops : List TableOp)
    (single : ∀ id group group', TableOp.setEndpointGroup id group ∈ ops →
      TableOp.setEndpointGroup id group' ∈ ops → group = group')
    (endpointId : EndpointId) (sysid compid : UInt8) (nonzero : sysid ≠ 0)
    (sent : (RoutingTable.new.run ops).shouldSend endpointId sysid compid = true) :
    (∃ sniffed ∈ (RoutingTable.new.run ops).config.snifferSysids, ∃ c, Observed ops endpointId sniffed c) ∨
    ∃ source, (source = endpointId ∨ SameGroup (RoutingTable.new.run ops) source endpointId) ∧
      ∃ c, Observed ops source sysid c ∧
        (compid ≠ 0 → ((RoutingTable.new.run ops).component sysid compid).isSome → c = compid) := by
  have refines := (run_refines ops).2
  rw [shouldSend_iff, refines] at sent
  rcases sent with ⟨sniffed, configured, heard⟩ | everyone | ⟨entry, found, reaches⟩
  · obtain ⟨sighting, known, inside⟩ := (mem_observersOf _ _).mp heard
    refine .inl ⟨sniffed, ?_, system_observed ops sniffed sighting known endpointId inside⟩
    rw [← refines] at configured
    simpa [abs, absPolicy] using configured
  · exact absurd everyone nonzero
  · obtain ⟨source, inside, related⟩ := reaches_observer ops single _ endpointId reaches
    refine .inr ⟨source, related, ?_⟩
    have components : (Reference.run ops).routes (sysid, compid) =
        ((RoutingTable.new.run ops).component sysid compid).map absEntry := by
      rw [← refines]
      rfl
    by_cases all : compid = 0
    · rw [Reference.deciding, if_pos all] at inside
      obtain ⟨c, observed⟩ := system_observed ops sysid entry found source inside
      exact ⟨c, observed, fun specific => absurd all specific⟩
    · rw [Reference.deciding, if_neg all] at inside
      cases known : (Reference.run ops).routes (sysid, compid) with
      | none =>
        rw [known, Option.getD_none] at inside
        obtain ⟨c, observed⟩ := system_observed ops sysid entry found source inside
        refine ⟨c, observed, fun _ present => ?_⟩
        rw [known] at components
        rw [Option.map_eq_none_iff.mp components.symm] at present
        cases present
      | some comp =>
        rw [known, Option.getD_some] at inside
        exact ⟨compid, component_observed ops sysid compid comp known source inside, fun _ _ => rfl⟩

def groupedRun : List TableOp :=
  [.setEndpointGroup ⟨1⟩ "link", .setEndpointGroup ⟨2⟩ "link", .update ⟨1⟩ 7 1 5 5]

theorem sent_only_towards_observed_grouped :
    (∃ sniffed ∈ (RoutingTable.new.run groupedRun).config.snifferSysids, ∃ c, Observed groupedRun ⟨2⟩ sniffed c) ∨
    ∃ source, (source = ⟨2⟩ ∨ SameGroup (RoutingTable.new.run groupedRun) source ⟨2⟩) ∧
      ∃ c, Observed groupedRun source 7 c ∧
        ((1 : UInt8) ≠ 0 → ((RoutingTable.new.run groupedRun).component 7 1).isSome → c = 1) :=
  sent_only_towards_observed groupedRun
    (by
      intro id group group' first second
      simp only [groupedRun, List.mem_cons, TableOp.setEndpointGroup.injEq, reduceCtorEq, List.not_mem_nil,
        or_false] at first second
      rcases first with ⟨_, rfl⟩ | ⟨_, rfl⟩ <;> rcases second with ⟨_, rfl⟩ | ⟨_, rfl⟩ <;> rfl)
    ⟨2⟩ 7 1 (by decide) (by decide +kernel)

end MavRouter.Routing
