import MavRouter.Network.Ledger

set_option autoImplicit false

namespace MavRouter.Network

open Framing Ingress Routing Runs
open Broadcast (ring)

variable {M : Type} [Message M] {channel : Broadcast.Channel RoutedMessage}

-- What check_outgoing lets through: the loop of a transport goes on with nothing else, and with less once it is
-- cancelled.
def Taken.accepted (core : EndpointCore) (taken : Taken) : Option RoutedMessage :=
  taken.reception.item.filter fun msg => core.checkOutgoing taken.routingTable msg

def Link.forwarded (link : Link) : List RoutedMessage := link.taken.filterMap (Taken.accepted link.core)

def wants (core : EndpointCore) (msg : RoutedMessage) : Bool :=
  decide (msg.sourceId ≠ core.id) && core.filters.checkOutgoing msg.header msg.messageId

def isBroadcast (msg : RoutedMessage) : Bool := decide (msg.target.systemId = 0)

theorem checkOutgoing_eq (core : EndpointCore) (routingTable : RoutingTable) (msg : RoutedMessage) :
    core.checkOutgoing routingTable msg = (wants core msg &&
      (isBroadcast msg || routingTable.shouldSend core.id msg.target.systemId msg.target.componentId)) := by
  simp only [EndpointCore.checkOutgoing, wants, isBroadcast]
  by_cases own : msg.sourceId = core.id <;>
    cases core.filters.checkOutgoing msg.header msg.messageId <;>
      by_cases broadcast : msg.target.systemId = 0 <;> simp [own, broadcast]

theorem accepted_some (core : EndpointCore) (taken : Taken) (msg : RoutedMessage) :
    taken.accepted core = some msg ↔
      taken.reception = .message msg ∧ core.checkOutgoing taken.routingTable msg = true := by
  rw [Taken.accepted, Option.filter_eq_some_iff]
  refine and_congr_left fun _ => ?_
  cases taken.reception <;> simp [Broadcast.Reception.item]

/-- Another link had read the message, both let it through, and it was for everybody or had a route when it left. -/
def Earned (ahash : List UInt8 → UInt64) (system : System) (steps : List (Step M)) (i : Nat) (link : Link)
    (msg : RoutedMessage) : Prop :=
  ∃ before j frame now timestampUs between cancelled after source,
    steps = before ++ .incoming j frame now timestampUs :: (between ++ .recvNextBusMsg i cancelled :: after) ∧
    (system.run ahash (before ++ .incoming j frame now timestampUs :: between)).Takes i msg ∧
    (system.run ahash before).link j = some source ∧ source.core.id ≠ link.core.id ∧
    passesFilter source.core frame = true ∧ isDuplicate ahash (system.run ahash before).router frame = false ∧
    msg = source.core.routed frame timestampUs ∧
    link.core.filters.checkOutgoing frame.header (Message.messageId frame.message) = true ∧
    ((extractTarget frame.message).systemId = 0 ∨
      (system.run ahash (before ++ .incoming j frame now timestampUs :: between)).router.routingTable.shouldSend
        link.core.id (extractTarget frame.message).systemId (extractTarget frame.message).componentId = true)

theorem forwarded_taken (link : Link) (msg : RoutedMessage) (forwarded : msg ∈ link.forwarded) :
    ∃ past taken future, link.taken = past ++ taken :: future ∧ taken.reception = .message msg ∧
      link.core.checkOutgoing taken.routingTable msg = true := by
  obtain ⟨taken, member, accepted⟩ := List.mem_filterMap.mp forwarded
  obtain ⟨past, future, split⟩ := List.append_of_mem member
  exact ⟨past, taken, future, split, (accepted_some ..).mp accepted⟩

theorem run_forwarded (ahash : List UInt8 → UInt64) (system : System) (idle : system.links = []) (steps : List (Step M))
    (i : Nat) (link : Link) (found : (system.run ahash steps).links[i]? = some link) (msg : RoutedMessage)
    (forwarded : msg ∈ link.forwarded) :
    ∃ before cancelled after, steps = before ++ .recvNextBusMsg i cancelled :: after ∧
      (system.run ahash before).Takes i msg ∧
      link.core.checkOutgoing (system.run ahash before).router.routingTable msg = true := by
  obtain ⟨past, taken, future, split, message, passes⟩ := forwarded_taken link msg forwarded
  obtain ⟨before, cancelled, after, earlier, rfl, opened, _, _, _, rfl⟩ :=
    run_received idle steps i link found past future taken split
  obtain ⟨channel, capacity⟩ := run_channel ahash system before
  refine ⟨before, cancelled, after, rfl, ⟨earlier, opened, ?_⟩, passes⟩
  rw [channel, capacity]
  exact message

theorem System.Takes.sent {system : System} {i : Nat} {msg : RoutedMessage} (takes : system.Takes i msg) :
    ∃ place : Nat, system.sent[place]? = some msg := by
  obtain ⟨link, _, message⟩ := takes
  exact ⟨link.next, Broadcast.recv_message _ _ _ _ _ message⟩

theorem forwards_only_earned (ahash : List UInt8 → UInt64) (routingTable : RoutingTable) (dedupPeriod : Duration)
    (busCapacity : Nat) (steps : List (Step M)) (i : Nat) (link : Link)
    (found : ((System.start channel routingTable dedupPeriod busCapacity).run ahash steps).links[i]? = some link)
    (msg : RoutedMessage) (forwarded : msg ∈ link.forwarded) :
    Earned ahash (System.start channel routingTable dedupPeriod busCapacity) steps i link msg := by
  obtain ⟨older, cancelled, after, rfl, takes, passes⟩ := run_forwarded ahash _ rfl steps i link found msg forwarded
  obtain ⟨place, sent⟩ := takes.sent
  obtain ⟨before, j, frame, now, timestampUs, between, source, rfl, reading, publishes, _, rfl⟩ :=
    run_published rfl older place msg sent
  obtain ⟨filtered, new, _⟩ := (publishes_iff ..).mp publishes
  simp only [checkOutgoing_eq, wants, isBroadcast, EndpointCore.routed, Bool.and_eq_true, Bool.or_eq_true,
    decide_eq_true_eq] at passes
  exact ⟨before, j, frame, now, timestampUs, between, cancelled, after, source, by simp, takes, reading, passes.1.1,
    filtered, new, rfl, passes.1.2, passes.2⟩

def relayCore (id : Nat) : EndpointCore := ⟨⟨id⟩, {}, true, id⟩

def relay : List (Step CommonMessage) :=
  [.connect (relayCore 0), .connect (relayCore 1), .incoming 0 sampleFrame 0 1, .recvNextBusMsg 1 false]

def relayed : System := (System.start ring RoutingTable.new 0 16).run sampleHash relay

theorem relayed_link : ∃ link, relayed.links[1]? = some link ∧
    link.forwarded = [(relayCore 0).routed sampleFrame 1] ∧ link.next = 1 := by
  refine ⟨relayed.links[1], rfl, ?_⟩
  decide +kernel

theorem forwards_only_earned_heartbeat : ∃ link,
    Earned sampleHash (System.start ring RoutingTable.new 0 16) relay 1 link ((relayCore 0).routed sampleFrame 1) := by
  obtain ⟨link, found, forwarded, _⟩ := relayed_link
  exact ⟨link, forwards_only_earned sampleHash RoutingTable.new 0 16 relay 1 link found _ (by simp [forwarded])⟩

theorem forwarded_cons (core : EndpointCore) (first : Taken) (rest : List Taken) :
    (first :: rest).filterMap (Taken.accepted core) =
      (first.accepted core).toList ++ rest.filterMap (Taken.accepted core) := by
  cases accepted : first.accepted core <;> simp [accepted]

theorem accepted_sublist (core : EndpointCore) (taken : Taken) :
    (taken.accepted core).toList.Sublist (taken.reception.item.toList.filter fun msg => wants core msg) := by
  rw [Taken.accepted]
  cases taken.reception.item with
  | none => simp
  | some msg =>
    rw [Option.filter_some, checkOutgoing_eq]
    cases wanted : wants core msg <;> simp
    split <;> simp [wanted]

theorem forwarded_sublist (core : EndpointCore) (taken : List Taken) :
    (taken.filterMap (Taken.accepted core)).Sublist
      ((Broadcast.items (taken.map Taken.reception)).filter fun msg => wants core msg) := by
  induction taken with
  | nil => simp [Broadcast.items]
  | cons first rest ih =>
    rw [forwarded_cons, List.map_cons, Broadcast.items_cons, List.filter_append]
    exact (accepted_sublist core first).append ih

theorem forwards_in_order (ahash : List UInt8 → UInt64) (routingTable : RoutingTable) (dedupPeriod : Duration)
    (busCapacity : Nat) (steps : List (Step M)) (link : Link)
    (member : link ∈ ((System.start channel routingTable dedupPeriod busCapacity).run ahash steps).links) :
    let bus := ((System.start channel routingTable dedupPeriod busCapacity).run ahash steps).sent
    link.forwarded.Sublist ((bus.drop link.since).filter fun msg => wants link.core msg) ∧
      (Broadcast.items (receptions link)).length + Broadcast.missed (receptions link) = link.next - link.since ∧
      link.since ≤ link.next ∧ link.next ≤ bus.length := by
  intro bus
  have idle : Sound (System.start channel routingTable dedupPeriod busCapacity) := by simp [Sound, System.start]
  obtain ⟨begun, within, follows⟩ := run_sound ahash idle steps link member
  have counts := follows.counts
  have inside : ((bus.take link.next).drop link.since).Sublist (bus.drop link.since) := (List.take_sublist ..).drop _
  refine ⟨?_, ?_, begun, within⟩
  · exact (forwarded_sublist link.core link.taken).trans ((follows.sublist.trans inside).filter _)
  · rw [counts, List.length_drop, List.length_take, Nat.min_eq_left within]

theorem forwards_in_order_heartbeat : ∃ link ∈ relayed.links, link.forwarded = [(relayCore 0).routed sampleFrame 1] ∧
    link.forwarded.Sublist ((relayed.sent.drop link.since).filter fun msg => wants link.core msg) := by
  obtain ⟨link, found, forwarded, _⟩ := relayed_link
  have member := List.mem_of_getElem? found
  exact ⟨link, member, forwarded, (forwards_in_order sampleHash RoutingTable.new 0 16 relay link member).1⟩

def KeepsUp (ahash : List UInt8 → UInt64) (system : System) (steps : List (Step M)) (i : Nat) : Prop :=
  ∀ before cancelled after link, steps = before ++ .recvNextBusMsg i cancelled :: after →
    (system.run ahash before).link i = some link →
    (system.run ahash before).sent.length ≤ link.next + system.capacity

theorem run_sent_length (ahash : List UInt8 → UInt64) (system : System) (steps : List (Step M)) :
    (system.run ahash steps).sent.length ≤ system.sent.length + steps.length := by
  induction steps generalizing system with
  | nil => exact Nat.le_refl _
  | cons op rest ih =>
    have later : (system.run ahash (op :: rest)).sent.length ≤ (system.step ahash op).sent.length + rest.length :=
      ih (system.step ahash op)
    obtain ⟨more, sent, grown⟩ := (step_moves ahash system op).sent
    have one : more.length ≤ 1 := by
      rcases grown with rfl | ⟨_, _, _, _, _, _, _, _, rfl⟩ <;> simp
    rw [sent, List.length_append] at later
    rw [List.length_cons]
    omega

theorem keepsUp_short (ahash : List UInt8 → UInt64) (system : System) (steps : List (Step M)) (i : Nat)
    (short : system.sent.length + steps.length ≤ system.capacity) : KeepsUp ahash system steps i := by
  rintro before cancelled after link rfl _
  have bounded := run_sent_length ahash system before
  simp only [List.length_append] at short
  omega

theorem keepsUp_missed (ahash : List UInt8 → UInt64) (system : System) (idle : system.links = [])
    (steps : List (Step M)) (i : Nat) (link : Link) (found : (system.run ahash steps).links[i]? = some link)
    (keepsUp : KeepsUp ahash system steps i) : Broadcast.missed (receptions link) = 0 := by
  rw [Broadcast.missed, List.sum_eq_zero_iff_forall_eq_nat]
  simp only [receptions, List.map_map, List.mem_map]
  rintro missed ⟨taken, member, rfl⟩
  obtain ⟨past, future, split⟩ := List.append_of_mem member
  obtain ⟨before, cancelled, after, earlier, rfl, opened, _, _, _, rfl⟩ :=
    run_received idle steps i link found past future taken split
  exact Broadcast.recv_missed _ _ _ _ (keepsUp before cancelled after earlier rfl opened)

theorem accepted_broadcast (core : EndpointCore) (taken : Taken) :
    (taken.accepted core).toList.filter isBroadcast =
      taken.reception.item.toList.filter fun msg => wants core msg && isBroadcast msg := by
  rw [Taken.accepted]
  cases taken.reception.item with
  | none => rfl
  | some msg =>
    rw [Option.filter_some, checkOutgoing_eq]
    cases wanted : wants core msg <;> cases broadcast : isBroadcast msg <;> simp [wanted, broadcast]

theorem forwarded_broadcasts (core : EndpointCore) (taken : List Taken) :
    (taken.filterMap (Taken.accepted core)).filter isBroadcast =
      (Broadcast.items (taken.map Taken.reception)).filter fun msg => wants core msg && isBroadcast msg := by
  induction taken with
  | nil => simp [Broadcast.items]
  | cons first rest ih =>
    rw [forwarded_cons, List.map_cons, Broadcast.items_cons, List.filter_append, List.filter_append, ih,
      accepted_broadcast]

theorem keepsUp_items (ahash : List UInt8 → UInt64) (routingTable : RoutingTable) (dedupPeriod : Duration)
    (busCapacity : Nat) (steps : List (Step M)) (i : Nat) (link : Link)
    (found : ((System.start channel routingTable dedupPeriod busCapacity).run ahash steps).links[i]? = some link)
    (keepsUp : KeepsUp ahash (System.start channel routingTable dedupPeriod busCapacity) steps i) :
    Broadcast.items (receptions link) =
      (((System.start channel routingTable dedupPeriod busCapacity).run ahash steps).sent.take link.next).drop
        link.since := by
  have idle : Sound (System.start channel routingTable dedupPeriod busCapacity) := by simp [Sound, System.start]
  have stands := run_sound ahash idle steps link (List.mem_of_getElem? found)
  exact stands.follows.whole (keepsUp_missed ahash _ rfl steps i link found keepsUp)

theorem broadcasts_reach_all (ahash : List UInt8 → UInt64) (routingTable : RoutingTable) (dedupPeriod : Duration)
    (busCapacity : Nat) (steps : List (Step M)) (i : Nat) (link : Link)
    (found : ((System.start channel routingTable dedupPeriod busCapacity).run ahash steps).links[i]? = some link)
    (keepsUp : KeepsUp ahash (System.start channel routingTable dedupPeriod busCapacity) steps i) :
    let bus := ((System.start channel routingTable dedupPeriod busCapacity).run ahash steps).sent
    Broadcast.items (receptions link) = (bus.take link.next).drop link.since ∧
      link.forwarded.filter isBroadcast =
        ((bus.take link.next).drop link.since).filter fun msg => wants link.core msg && isBroadcast msg := by
  intro bus
  have whole := keepsUp_items ahash routingTable dedupPeriod busCapacity steps i link found keepsUp
  refine ⟨whole, ?_⟩
  rw [Link.forwarded, forwarded_broadcasts]
  exact congrArg (List.filter _) whole

theorem broadcasts_reach_all_heartbeat : ∃ link ∈ relayed.links,
    link.forwarded.filter isBroadcast =
      ((relayed.sent.take link.next).drop link.since).filter fun msg => wants link.core msg && isBroadcast msg := by
  obtain ⟨link, found, _⟩ := relayed_link
  have keepsUp : KeepsUp sampleHash (System.start ring RoutingTable.new 0 16) relay 1 :=
    keepsUp_short _ _ _ _ (by decide +kernel)
  exact ⟨link, List.mem_of_getElem? found,
    (broadcasts_reach_all sampleHash RoutingTable.new 0 16 relay 1 link found keepsUp).2⟩

end MavRouter.Network
