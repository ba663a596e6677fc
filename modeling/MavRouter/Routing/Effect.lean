import MavRouter.Routing.Answers

set_option autoImplicit false

namespace MavRouter.Routing

open Maps Sightings RoutingTable

namespace Reference

variable (reference : Reference) (endpointId : EndpointId) (sysid compid : UInt8) (now clock : Instant)

def learned : Reference := reference.apply (.update endpointId sysid compid now clock)

theorem learned_components :
    (reference.learned endpointId sysid compid now clock).routes =
      reference.routes.see (sysid, compid) endpointId now := rfl

theorem learned_systems :
    (reference.learned endpointId sysid compid now clock).sysRoutes =
      reference.sysRoutes.see sysid endpointId now := rfl

theorem learned_policy : (reference.learned endpointId sysid compid now clock).policy = reference.policy := rfl

theorem Reaches.mono {reference : Reference} {observers more : Finset EndpointId} {endpoint : EndpointId}
    (reaches : reference.Reaches observers endpoint) (grown : observers ⊆ more) : reference.Reaches more endpoint := by
  cases reaches with
  | inl own => exact .inl (grown own)
  | inr shared =>
    obtain ⟨group, member, ep, listed, together⟩ := shared
    exact .inr ⟨group, member, ep, grown listed, together⟩

theorem learned_sniffer (endpoint : EndpointId) :
    (reference.learned endpointId sysid compid now clock).Sniffer endpoint ↔
      reference.Sniffer endpoint ∨ (sysid ∈ reference.policy.sniffers ∧ endpoint = endpointId) := by
  simp only [Sniffer, learned_systems, learned_policy]
  constructor
  · rintro ⟨system, sniffs, heard⟩
    by_cases same : system = sysid
    · subst same
      rw [see_same, observersOf, Finset.mem_insert] at heard
      cases heard with
      | inl new => exact .inr ⟨sniffs, new⟩
      | inr old => exact .inl ⟨system, sniffs, old⟩
    · rw [see_other _ _ _ _ _ same] at heard
      exact .inl ⟨system, sniffs, heard⟩
  · rintro (⟨system, sniffs, heard⟩ | ⟨sniffs, rfl⟩)
    · refine ⟨system, sniffs, ?_⟩
      by_cases same : system = sysid
      · subst same
        rw [see_same]
        exact Finset.mem_insert_of_mem heard
      · rwa [see_other _ _ _ _ _ same]
    · refine ⟨sysid, sniffs, ?_⟩
      rw [see_same]
      exact Finset.mem_insert_self _ _

theorem learned_elsewhere (endpoint : EndpointId) (system target : UInt8) (other : system ≠ sysid) :
    (reference.learned endpointId sysid compid now clock).ShouldSend endpoint system target ↔
      reference.ShouldSend endpoint system target ∨ (sysid ∈ reference.policy.sniffers ∧ endpoint = endpointId) := by
  have components : (system, target) ≠ (sysid, compid) := fun same => other (Prod.mk.inj same).1
  simp only [ShouldSend, learned_sniffer, deciding, Reaches, learned_components, learned_systems, learned_policy,
    see_other _ _ _ _ _ other, see_other _ _ _ _ _ components]
  exact or_right_comm

theorem learned_deciding (target : UInt8) (entry : Sighting EndpointId)
    (known : target = compid → target ≠ 0 → reference.routes (sysid, compid) ≠ none) :
    (reference.deciding sysid target entry).observers ⊆
      ((reference.learned endpointId sysid compid now clock).deciding sysid target
        { observers := insert endpointId entry.observers, lastSeen := now }).observers := by
  by_cases whole : target = 0
  · simp only [deciding, if_pos whole]
    exact Finset.subset_insert _ _
  · simp only [deciding, if_neg whole, learned_components]
    by_cases same : target = compid
    · subst same
      obtain ⟨component, found⟩ := Option.ne_none_iff_exists'.mp (known rfl whole)
      rw [see_same, found]
      exact Finset.subset_insert _ _
    · have elsewhere : (sysid, target) ≠ (sysid, compid) := fun equal => same (Prod.mk.inj equal).2
      rw [see_other _ _ _ _ _ elsewhere]
      cases reference.routes (sysid, target) with
      | none => exact Finset.subset_insert _ _
      | some component => exact Finset.Subset.refl _

theorem learned_here (endpoint : EndpointId) (target : UInt8)
    (known : target = compid → target ≠ 0 → reference.routes (sysid, compid) ≠ none)
    (sends : reference.ShouldSend endpoint sysid target) :
    (reference.learned endpointId sysid compid now clock).ShouldSend endpoint sysid target := by
  rcases sends with sniffer | everyone | ⟨entry, found, reaches⟩
  · exact .inl ((learned_sniffer ..).mpr (.inl sniffer))
  · exact .inr (.inl everyone)
  · have stored : (reference.learned endpointId sysid compid now clock).sysRoutes sysid =
        some { observers := insert endpointId entry.observers, lastSeen := now } := by
      rw [learned_systems, see_same, found]
      rfl
    refine .inr (.inr ⟨_, stored, ?_⟩)
    have grown := learned_deciding reference endpointId sysid compid now clock target entry known
    have there : reference.Reaches _ endpoint := reaches.mono grown
    exact there

theorem learned_itself (target : UInt8) (heard : target = compid ∨ target = 0) :
    (reference.learned endpointId sysid compid now clock).ShouldSend endpointId sysid target := by
  refine .inr (.inr ⟨_, see_same reference.sysRoutes sysid endpointId now, .inl ?_⟩)
  by_cases whole : target = 0
  · simp only [deciding, if_pos whole]
    exact Finset.mem_insert_self _ _
  · have same := heard.resolve_right whole
    subst same
    simp only [deciding, if_neg whole, learned_components, see_same]
    exact Finset.mem_insert_self _ _

end Reference

theorem abs_update (table : RoutingTable) (wellFormed : WellFormed table) (endpointId : EndpointId)
    (sysid compid : UInt8) (now clock : Instant) :
    abs (table.update endpointId sysid compid now clock) = (abs table).learned endpointId sysid compid now clock :=
  abs_apply table (.update endpointId sysid compid now clock) wellFormed

theorem learning_effect (ops : List TableOp) (endpointId : EndpointId) (sysid compid : UInt8) (now clock : Instant)
    (addressed : sysid ≠ 0) :
    let table := RoutingTable.new.run ops
    let next := table.update endpointId sysid compid now clock
    (next.shouldSend endpointId sysid compid = true ∧ next.shouldSend endpointId sysid 0 = true) ∧
    (∀ endpoint system target, system ≠ 0 → system ≠ sysid →
      next.shouldSend endpoint system target =
        if sysid ∈ table.config.snifferSysids ∧ endpoint = endpointId then true
        else table.shouldSend endpoint system target) ∧
    ∀ endpoint system target,
      table.shouldSend endpoint system target = true → next.shouldSend endpoint system target = false →
      system = sysid ∧ target = compid ∧ compid ≠ 0 ∧ table.component sysid compid = none := by
  intro table next
  have wellFormed := (run_refines ops).1
  have learned : abs next = (abs table).learned endpointId sysid compid now clock :=
    abs_update table wellFormed endpointId sysid compid now clock
  have sniffs : sysid ∈ (abs table).policy.sniffers ↔ sysid ∈ table.config.snifferSysids := HashSet.mem_toFinset ..
  have elsewhere (endpoint : EndpointId) (system target : UInt8) (other : system ≠ sysid) :
      next.shouldSend endpoint system target = true ↔
        table.shouldSend endpoint system target = true ∨
          (sysid ∈ table.config.snifferSysids ∧ endpoint = endpointId) := by
    rw [shouldSend_iff, shouldSend_iff, learned, Reference.learned_elsewhere _ _ _ _ _ _ _ _ _ other, sniffs]
  refine ⟨⟨?_, ?_⟩, ?_, ?_⟩
  · rw [shouldSend_iff, learned]
    exact Reference.learned_itself _ _ _ _ _ _ _ (.inl rfl)
  · rw [shouldSend_iff, learned]
    exact Reference.learned_itself _ _ _ _ _ _ _ (.inr rfl)
  · intro endpoint system target _ other
    rw [Bool.eq_iff_iff, elsewhere endpoint system target other]
    split_ifs with sniffer
    · exact iff_of_true (.inr sniffer) rfl
    · exact or_iff_left sniffer
  · intro endpoint system target before after
    have lost : ¬next.shouldSend endpoint system target = true := by simp [after]
    by_cases same : system = sysid
    · subst same
      by_contra others
      apply lost
      rw [shouldSend_iff, learned]
      apply Reference.learned_here _ _ _ _ _ _ _ _ _ ((shouldSend_iff ..).mp before)
      intro heard whole unknown
      apply others
      have absent : table.component system compid = none := by
        have mapped : (abs table).routes (system, compid) = (table.component system compid).map absEntry := rfl
        rw [mapped] at unknown
        exact Option.map_eq_none_iff.mp unknown
      exact ⟨rfl, heard, heard ▸ whole, absent⟩
    · exact absurd ((elsewhere endpoint system target same).mpr (.inl before)) lost

-- Endpoint 0 has heard component 2 of system 1, and endpoint 1 the sniffer 7; now endpoint 1 hears component 1.
theorem learning_effect_first :
    let ops : List TableOp := [.setSnifferSysids [7], .update ⟨0⟩ 1 2 0 0, .update ⟨1⟩ 7 1 0 0]
    let table := RoutingTable.new.run ops
    let next := table.update ⟨1⟩ 1 1 5 5
    next.shouldSend ⟨1⟩ 1 1 = true ∧ next.shouldSend ⟨1⟩ 9 0 = table.shouldSend ⟨1⟩ 9 0 ∧
      table.shouldSend ⟨0⟩ 1 1 = true ∧ next.shouldSend ⟨0⟩ 1 1 = false ∧ table.component 1 1 = none := by
  intro ops table next
  obtain ⟨here, elsewhere, lost⟩ := learning_effect ops ⟨1⟩ 1 1 5 5 (by decide)
  have sent : table.shouldSend ⟨0⟩ 1 1 = true := by decide +kernel
  have withheld : next.shouldSend ⟨0⟩ 1 1 = false := by decide +kernel
  exact ⟨here.1, elsewhere ⟨1⟩ 9 0 (by decide) (by decide), sent, withheld, (lost ⟨0⟩ 1 1 sent withheld).2.2.2⟩

end MavRouter.Routing
