import Mathlib.Algebra.GroupWithZero.Nat
import Mathlib.Data.UInt
import MavRouter.Network.Forwarding

set_option autoImplicit false

namespace MavRouter.Network

open Framing Ingress Routing Runs

variable {M : Type} [Message M] {ahash : List UInt8 → UInt64} {channel : Broadcast.Channel RoutedMessage}
  {system : System} {id : EndpointId} {k : Nat}

theorem publishFrame_stats (core : EndpointCore) (frame : MavlinkFrame M) (timestampUs : UInt64)
    (router : RouterState) :
    (core.publishFrame frame timestampUs router).stats =
      if router.bus.receivers = 0 then router.stats
      else Function.update router.stats core.stats { router.stats core.stats with
        msgsIn := (router.stats core.stats).msgsIn + 1
        bytesIn := (router.stats core.stats).bytesIn + frame.rawBytes.length.toUInt64 } := by
  unfold EndpointCore.publishFrame Bus.send
  split_ifs <;> rfl

theorem observeRoute_stats (core : EndpointCore) (header : MavHeader) (now : Instant) (router : RouterState) :
    (core.observeRoute header now router).stats = router.stats := by
  unfold EndpointCore.observeRoute
  split_ifs
  · rfl
  · rfl
  · cases router.routeUpdates.trySend _ <;> rfl

theorem handleIncomingFrame_stats (ahash : List UInt8 → UInt64) (core : EndpointCore) (frame : MavlinkFrame M)
    (now : Instant) (timestampUs : UInt64)
    (router : RouterState) [Decidable (Publishes ahash router core frame now timestampUs)] :
    (core.handleIncomingFrame ahash frame now timestampUs router).stats =
      if Publishes ahash router core frame now timestampUs then
        Function.update router.stats core.stats { router.stats core.stats with
          msgsIn := (router.stats core.stats).msgsIn + 1
          bytesIn := (router.stats core.stats).bytesIn + frame.rawBytes.length.toUInt64 }
      else router.stats := by
  simp only [publishes_iff, passesFilter, isDuplicate, EndpointCore.handleIncomingFrame]
  cases core.acceptFrame frame.header (Message.messageId frame.message) with
  | false => simp
  | true =>
    cases duplicate : (router.dedup.checkAndInsert ahash frame.rawBytes).1 with
    | true => simp
    | false =>
      rw [if_neg (by simp), if_neg (by simp), publishFrame_stats, observeRoute_stats, (observeRoute_frame ..).1]
      by_cases heard : router.bus.receivers = 0 <;> simp [heard]

def published (id : EndpointId) (bus : List RoutedMessage) : List RoutedMessage :=
  bus.filter fun msg => msg.sourceId = id

def lostBy (id : EndpointId) (link : Link) : Nat :=
  if link.core.id = id then Broadcast.missed (receptions link) else 0

def lost (id : EndpointId) (links : List Link) : Nat := (links.map (lostBy id)).sum

structure Counted (id : EndpointId) (k : Nat) (system : System) : Prop where
  msgsIn : (system.router.stats k).msgsIn = UInt64.ofNat (published id system.sent).length
  bytesIn : (system.router.stats k).bytesIn =
    UInt64.ofNat ((published id system.sent).map fun msg => msg.serializedBytes.length).sum
  busLagged : (system.router.stats k).busLagged = UInt64.ofNat (lost id system.links)

def Owns (id : EndpointId) (k : Nat) (steps : List (Step M)) : Prop :=
  ∀ core, Step.connect core ∈ steps → (core.stats = k ↔ core.id = id)

theorem lost_connect (id : EndpointId) (links : List Link) (core : EndpointCore) (opened : Bool) (next since : Nat) :
    lost id (links ++ [⟨core, opened, next, since, []⟩]) = lost id links := by
  simp [lost, lostBy, receptions, Broadcast.missed]

theorem lost_disconnect (id : EndpointId) (links : List Link) (i : Nat) (link : Link) (found : links[i]? = some link) :
    lost id (links.set i { link with opened := false }) = lost id links := by
  have moved := sum_set (lostBy id) links i link { link with opened := false } found
  have same : lostBy id { link with opened := false } = lostBy id link := rfl
  rw [same] at moved
  exact Nat.add_right_cancel moved

theorem lost_received (channel : Broadcast.Channel RoutedMessage) (id : EndpointId) (links : List Link)
    (i capacity : Nat) (router : RouterState) (cancelled : Bool) (link : Link) (found : links[i]? = some link) :
    lost id (links.set i (link.recv channel capacity router cancelled)) = lost id links +
      if link.core.id = id then (channel.recv capacity router.bus.sent link.next).1.missed else 0 := by
  have moved := sum_set (lostBy id) links i link (link.recv channel capacity router cancelled) found
  have more : lostBy id (link.recv channel capacity router cancelled) = lostBy id link +
      if link.core.id = id then (channel.recv capacity router.bus.sent link.next).1.missed else 0 := by
    by_cases own : link.core.id = id <;> simp [lostBy, Link.recv, receptions, own, Broadcast.missed]
  simp only [lost]
  omega

theorem countLag_busLagged (stats : EndpointStats) (reception : Broadcast.Reception RoutedMessage) :
    (countLag stats reception).busLagged = stats.busLagged + UInt64.ofNat reception.missed := by
  cases reception <;> simp [countLag, Broadcast.Reception.missed]

@[simp] theorem countLag_msgsIn (stats : EndpointStats) (reception : Broadcast.Reception RoutedMessage) :
    (countLag stats reception).msgsIn = stats.msgsIn := by
  cases reception <;> rfl

@[simp] theorem countLag_bytesIn (stats : EndpointStats) (reception : Broadcast.Reception RoutedMessage) :
    (countLag stats reception).bytesIn = stats.bytesIn := by
  cases reception <;> rfl

theorem run_cores (idle : system.links = []) (steps : List (Step M)) (link : Link)
    (member : link ∈ (system.run ahash steps).links) : Step.connect link.core ∈ steps := by
  have core := List.mem_map_of_mem (f := Link.core) member
  rw [run_connected ahash idle] at core
  obtain ⟨op, inside, connects⟩ := List.mem_filterMap.mp core
  cases op with
  | connect core =>
    cases connects
    exact inside
  | _ => cases connects

theorem Counted.of_same {later : System} (counted : Counted id k system)
    (stats : later.router.stats = system.router.stats)
    (sent : later.sent = system.sent) (links : lost id later.links = lost id system.links) : Counted id k later := by
  constructor
  · rw [stats, sent, counted.msgsIn]
  · rw [stats, sent, counted.bytesIn]
  · rw [stats, links, counted.busLagged]

theorem Counted.incoming (counted : Counted id k system) (i : Nat) (frame : MavlinkFrame M) (now : Instant)
    (timestampUs : UInt64) (owned : ∀ link ∈ system.links, (link.core.stats = k ↔ link.core.id = id)) :
    Counted id k (system.incoming ahash i frame now timestampUs) := by
  classical
  rw [System.incoming]
  cases found : system.link i with
  | none => exact counted
  | some link =>
    have own := owned link (List.mem_of_getElem? (link_some found).1)
    have stats := handleIncomingFrame_stats ahash link.core frame now timestampUs system.router
    by_cases publishes : Publishes ahash system.router link.core frame now timestampUs
    · have sent : (link.core.handleIncomingFrame ahash frame now timestampUs system.router).bus.sent =
          system.sent ++ [link.core.routed frame timestampUs] := publishes
      rw [if_pos publishes] at stats
      by_cases mine : link.core.id = id
      · have here := own.mpr mine
        constructor <;> simp [System.sent, stats, sent, here, counted.msgsIn, counted.bytesIn, counted.busLagged,
          published, EndpointCore.routed, mine]
      · have elsewhere : k ≠ link.core.stats := fun same => mine (own.mp same.symm)
        constructor <;> simp [System.sent, stats, sent, elsewhere, counted.msgsIn, counted.bytesIn, counted.busLagged,
          published, EndpointCore.routed, mine]
    · rw [if_neg publishes] at stats
      have moves := step_moves ahash system (.incoming i frame now timestampUs)
      simp only [System.step, System.incoming, found] at moves
      cases moves with
      | published _ _ _ _ other again publishes' =>
        cases found.symm.trans again
        exact absurd publishes' publishes
      | other _ same _ => exact counted.of_same stats same rfl

theorem Counted.recvNextBusMsg (counted : Counted id k system) (i : Nat) (cancelled : Bool)
    (owned : ∀ link ∈ system.links, (link.core.stats = k ↔ link.core.id = id)) :
    Counted id k (system.recvNextBusMsg i cancelled) := by
  rw [System.recvNextBusMsg]
  cases found : system.link i with
  | none => exact counted
  | some link =>
    have own := owned link (List.mem_of_getElem? (link_some found).1)
    have links := lost_received system.channel id system.links i system.capacity system.router cancelled link
      (link_some found).1
    by_cases mine : link.core.id = id
    · have here := own.mpr mine
      rw [if_pos mine] at links
      constructor
      · simpa [here, System.sent] using counted.msgsIn
      · simpa [here, System.sent] using counted.bytesIn
      · simp [here, countLag_busLagged, counted.busLagged, links, UInt64.ofNat_add, System.sent]
    · have elsewhere : k ≠ link.core.stats := fun same => mine (own.mp same.symm)
      rw [if_neg mine, Nat.add_zero] at links
      constructor
      · simpa [elsewhere, System.sent] using counted.msgsIn
      · simpa [elsewhere, System.sent] using counted.bytesIn
      · simp [elsewhere, counted.busLagged, links]

theorem Counted.step (counted : Counted id k system) (op : Step M)
    (owned : ∀ link ∈ system.links, (link.core.stats = k ↔ link.core.id = id)) :
    Counted id k (system.step ahash op) := by
  cases op with
  | connect core => exact counted.of_same rfl rfl (lost_connect ..)
  | disconnect i =>
    simp only [System.step, System.disconnect]
    cases found : system.link i with
    | none => exact counted
    | some link => exact counted.of_same rfl rfl (lost_disconnect id _ i link (link_some found).1)
  | incoming i frame now timestampUs => exact counted.incoming i frame now timestampUs owned
  | recvNextBusMsg i cancelled => exact counted.recvNextBusMsg i cancelled owned
  | recvRouteUpdate =>
    obtain ⟨queue, batch, received, _⟩ := recvRouteUpdate_cases (M := M) ahash system.router
    refine counted.of_same ?_ ?_ rfl <;> simp [System.step, System.sent, received]
  | applyRouteUpdate clock =>
    rcases applyRouteUpdate_cases (M := M) ahash system.router clock with ⟨same, _⟩ | ⟨update, rest, _, applied⟩
    · refine counted.of_same ?_ ?_ rfl <;> simp [System.step, System.sent, same]
    · refine counted.of_same ?_ ?_ rfl <;> simp [System.step, System.sent, applied]
  | rotateShard shard => exact counted.of_same rfl rfl rfl
  | prune now maxAge => exact counted.of_same rfl rfl rfl
  | subscribe => exact counted.of_same rfl rfl rfl
  | unsubscribe => exact counted.of_same rfl rfl rfl

theorem bus_counted (ahash : List UInt8 → UInt64) (routingTable : RoutingTable) (dedupPeriod : Duration)
    (busCapacity : Nat) (steps : List (Step M)) (id : EndpointId) (k : Nat) (owns : Owns id k steps) :
    Counted id k ((System.start channel routingTable dedupPeriod busCapacity).run ahash steps) := by
  revert owns
  apply run_history (System.step ahash) (System.start channel routingTable dedupPeriod busCapacity)
    (fun steps reached => Owns id k steps → Counted id k reached)
  · intro _
    constructor <;> simp [System.start, System.sent, published, lost]
  · intro steps op ih owns
    have before : Owns id k steps := fun core member => owns core (List.mem_append_left _ member)
    apply (ih before).step op
    intro link member
    exact before link.core (run_cores rfl steps link member)

theorem bus_counted_heartbeat : (relayed.router.stats 0).msgsIn = 1 ∧ (relayed.router.stats 0).busLagged = 0 := by
  have owns : Owns ⟨0⟩ 0 relay := by
    intro core member
    simp only [relay, List.mem_cons, Step.connect.injEq, reduceCtorEq, List.not_mem_nil, or_false] at member
    rcases member with rfl | rfl <;> simp [relayCore]
  have counted : Counted ⟨0⟩ 0 relayed := bus_counted sampleHash RoutingTable.new 0 16 relay ⟨0⟩ 0 owns
  refine ⟨counted.msgsIn.trans ?_, counted.busLagged.trans ?_⟩ <;> decide +kernel

end MavRouter.Network
