import MavRouter.Network.Routes
import MavRouter.Routing.Expiry

set_option autoImplicit false

namespace MavRouter.Network

open Endpoints Framing Ingress Orchestration Routing Runs Sightings
open Broadcast (ring)

variable {M : Type} [Message M] {ahash : List UInt8 → UInt64} {channel : Broadcast.Channel RoutedMessage}

def Relearned (ahash : List UInt8 → UInt64) (system : System) (steps : List (Step M)) (sysid : UInt8) : Prop :=
  ∃ before clock after u, steps = before ++ .applyRouteUpdate clock :: after ∧
    (system.run ahash before).router.batch.head? = some u ∧ u.sysId = sysid

theorem Relearned.later {system : System} {op : Step M} {rest : List (Step M)} {sysid : UInt8}
    (relearned : Relearned ahash (system.step ahash op) rest sysid) : Relearned ahash system (op :: rest) sysid := by
  obtain ⟨before, clock, after, u, rfl, first, same⟩ := relearned
  exact ⟨op :: before, clock, after, u, rfl, first, same⟩

theorem step_absent (system : System) (wellFormed : WellFormed system.router.routingTable) (op : Step M) (sysid : UInt8)
    (absent : (abs system.router.routingTable).sysRoutes sysid = none)
    (other : ∀ clock, op = .applyRouteUpdate clock → ∀ u, system.router.batch.head? = some u → u.sysId ≠ sysid) :
    (abs (system.step ahash op).router.routingTable).sysRoutes sysid = none := by
  cases step_routeMoves ahash system op with
  | heard i frame now timestampUs link found passes table _ => rwa [table]
  | applied clock u rest first _ _ table =>
    rw [table, abs_apply _ _ wellFormed]
    exact (see_other _ _ _ _ _ (other clock rfl u first).symm).trans absent
  | pruned now maxAge _ table =>
    rw [table, abs_apply _ _ wellFormed]
    change Option.filter _ ((abs system.router.routingTable).sysRoutes sysid) = none
    rw [absent]
    rfl
  | other _ _ table => rwa [table]

theorem run_absent (system : System) (wellFormed : WellFormed system.router.routingTable) (steps : List (Step M))
    (sysid : UInt8) (absent : (abs system.router.routingTable).sysRoutes sysid = none)
    (quiet : ¬Relearned ahash system steps sysid) :
    (abs (system.run ahash steps).router.routingTable).sysRoutes sysid = none := by
  induction steps generalizing system with
  | nil => exact absent
  | cons op rest ih =>
    apply ih (system.step ahash op) (run_wellFormed ahash system wellFormed [op])
    · apply step_absent system wellFormed op sysid absent
      rintro clock rfl u first same
      exact quiet ⟨[], clock, rest, u, rfl, first, same⟩
    · exact fun relearned => quiet relearned.later

theorem prune_absent (config : Config) (older : List (Step M)) (now : Instant) (maxAge : Duration) (sysid : UInt8)
    (silent : ∀ u, Heard ahash (configured channel config) older u → u.sysId = sysid → u.now + maxAge < now) :
    (abs ((configured channel config).run ahash (older ++ [.prune now maxAge])).router.routingTable).sysRoutes sysid =
    none := by
  obtain ⟨ops, table, each⟩ := (run_learned ahash (configured channel config) rfl older).applied
  have pruned : ((configured channel config).run ahash (older ++ [.prune now maxAge])).router.routingTable =
      (registeredTable config).run (ops ++ [.prune now maxAge]) := by
    rw [System.run_append, run_append, ← show _ = (registeredTable config).run ops from table]
    rfl
  rw [pruned, (run_references config _).2, Option.eq_none_iff_forall_ne_some]
  intro sighting found
  obtain ⟨report, member, time, ⟨endpointId, compid, clock, rfl⟩, young⟩ :=
    system_fresh ops now maxAge sysid sighting found
  rcases each _ member with ⟨_, _, pruned⟩ | ⟨u, clock', heard, same⟩
  · cases pruned
  · simp only [RouteUpdate.op, TableOp.update.injEq] at same
    obtain ⟨_, system, _, seen, _⟩ := same
    have old := silent u heard system.symm
    rw [← seen] at old
    exact Nat.not_lt_of_le young old

/-- Every prune has found that the system was heard within its maximal age, or the updater has
applied another observation of it since. -/
def Remembered (ahash : List UInt8 → UInt64) (channel : Broadcast.Channel RoutedMessage) (config : Config)
    (steps : List (Step M)) (sysid : UInt8) : Prop :=
  ∀ older now maxAge newer, steps = older ++ .prune now maxAge :: newer →
    (∃ u, Heard ahash (configured channel config) older u ∧ u.sysId = sysid ∧ now ≤ u.now + maxAge) ∨
      Relearned ahash ((configured channel config).run ahash (older ++ [.prune now maxAge])) newer sysid

theorem run_remembers (config : Config) (steps : List (Step M)) (sysid : UInt8)
    (present : (abs ((configured channel config).run ahash steps).router.routingTable).sysRoutes sysid ≠ none) :
    Remembered ahash channel config steps sysid := by
  rintro older now maxAge newer rfl
  by_contra neither
  obtain ⟨silent, quiet⟩ := not_or.mp neither
  apply present
  rw [List.append_cons, System.run_append]
  apply run_absent
  · exact run_wellFormed ahash (configured channel config) (registeredTable_wellFormed config) _
  · apply prune_absent
    intro u heard same
    by_contra young
    exact silent ⟨u, heard, same, Nat.le_of_not_lt young⟩
  · exact quiet

theorem targeted_while_remembered (ahash : List UInt8 → UInt64) (config : Config) (steps : List (Step M)) (i : Nat)
    (link : Link) (found : ((configured channel config).run ahash steps).links[i]? = some link) (msg : RoutedMessage)
    (forwarded : msg ∈ link.forwarded) (target : msg.target.systemId ≠ 0) :
    ∃ before cancelled after, steps = before ++ .recvNextBusMsg i cancelled :: after ∧
      ((configured channel config).run ahash before).Takes i msg ∧
      ((∃ u, Heard ahash (configured channel config) before u ∧ u.sysId ∈ config.general.snifferSysids ∧
          u.endpointId = link.core.id) ∨
        Remembered ahash channel config before msg.target.systemId) := by
  obtain ⟨before, cancelled, after, rfl, takes, passes⟩ := run_forwarded ahash _ rfl steps i link found msg forwarded
  simp only [checkOutgoing_eq, isBroadcast, target, decide_false, Bool.false_or, Bool.and_eq_true] at passes
  refine ⟨before, cancelled, after, rfl, takes, ?_⟩
  obtain ⟨ops, table, each⟩ := (run_learned ahash (configured channel config) rfl before).applied
  rcases (shouldSend_iff ..).mp passes.2 with sniffer | everyone | ⟨entry, present, _⟩
  · rw [show _ = (registeredTable config).run ops from table] at sniffer
    exact .inl (sniffer_heard each link.core.id sniffer)
  · exact absurd everyone target
  · exact .inr (run_remembers config before _ (by rw [present]; simp))

-- The system is heard, and still young enough for the prune that comes before the request.
def prunedRequest : List (Step CommonMessage) :=
  [.connect (relayCore 0), .connect (relayCore 1), .incoming 0 sampleFrame 0 1, .recvRouteUpdate, .applyRouteUpdate 0,
    .prune 5 10, .incoming 1 requestV2.frame 0 2, .recvNextBusMsg 0 false, .recvNextBusMsg 0 false]

theorem prunedRequest_link : ∃ link, ((configured ring {}).run sampleHash prunedRequest).links[0]? = some link ∧
    (relayCore 1).routed requestV2.frame 2 ∈ link.forwarded := by
  refine ⟨((configured ring {}).run sampleHash prunedRequest).links[0], rfl, ?_⟩
  decide +kernel

theorem targeted_while_remembered_request : ∃ before cancelled after,
    prunedRequest = before ++ .recvNextBusMsg 0 cancelled :: after ∧
      ((configured ring {}).run sampleHash before).Takes 0 ((relayCore 1).routed requestV2.frame 2) ∧
      Remembered sampleHash ring {} before 1 := by
  obtain ⟨link, found, forwarded⟩ := prunedRequest_link
  obtain ⟨before, cancelled, after, split, takes, ⟨u, _, sniffs, _⟩ | remembered⟩ :=
    targeted_while_remembered sampleHash {} prunedRequest 0 link found _ forwarded (by decide)
  · simp at sniffs
  · exact ⟨before, cancelled, after, split, takes, remembered⟩

end MavRouter.Network
