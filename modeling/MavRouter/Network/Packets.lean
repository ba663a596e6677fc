import MavRouter.Network.Wire

set_option autoImplicit false

namespace MavRouter.Network

open Draining Framing Ingress Routing Runs Endpoints.Udp
open Broadcast (ring)

variable {M : Type} {readers : Readers M} {endpoint : UdpEndpoint}

def packets (endpoint : UdpEndpoint) (s : UdpState) : UdpEvent → List (SocketAddr × RoutedMessage)
  | .outgoing msg routingTable failed now =>
    ((s.sendsTo endpoint msg routingTable now).filter fun addr => !failed addr).map fun addr => (addr, msg)
  | _ => []

def runPackets (readers : Readers M) (endpoint : UdpEndpoint) (s : UdpState) (events : List UdpEvent) :
    List (SocketAddr × RoutedMessage) :=
  (trace (packets endpoint) (UdpState.step readers endpoint) s events).flatten

def packetsTo (addr : SocketAddr) (sent : List (SocketAddr × RoutedMessage)) : List RoutedMessage :=
  (sent.filter fun packet => packet.1 = addr).map Prod.snd

def outgoing : UdpEvent → Option (RoutedMessage × RoutingTable)
  | .outgoing msg routingTable _ _ => some (msg, routingTable)
  | _ => none

def Taken.outgoing (taken : Taken) : Option (RoutedMessage × RoutingTable) :=
  taken.reception.item.map fun msg => (msg, taken.routingTable)

def passing (core : EndpointCore) (asked : RoutedMessage × RoutingTable) : Option RoutedMessage :=
  if core.checkOutgoing asked.2 asked.1 then some asked.1 else none

theorem outgoing_forwarded (link : Link) :
    (link.taken.filterMap Taken.outgoing).filterMap (passing link.core) = link.forwarded := by
  rw [List.filterMap_filterMap, Link.forwarded]
  refine congrArg (List.filterMap · link.taken) (funext fun taken => ?_)
  cases reception : taken.reception with
  | message msg =>
    simp [Taken.outgoing, Taken.accepted, passing, reception, Broadcast.Reception.item, Option.filter_some]
  | lagged n => simp [Taken.outgoing, Taken.accepted, reception, Broadcast.Reception.item]
  | empty => simp [Taken.outgoing, Taken.accepted, reception, Broadcast.Reception.item]

theorem targets_nodup (s : UdpState) (now : Instant) : (s.targets endpoint now).Nodup := by
  rw [UdpState.targets]
  cases endpoint.targetAddr with
  | none => exact s.clients.keys_nodup
  | some target => exact List.nodup_singleton _

theorem packets_sublist (endpoint : UdpEndpoint) (s : UdpState) (event : UdpEvent) (addr : SocketAddr) :
    (packetsTo addr (packets endpoint s event)).Sublist ((outgoing event).bind (passing endpoint.core)).toList := by
  cases event with
  | datagram _ _ _ => simp [packets, packetsTo]
  | cleanup _ => simp [packets, packetsTo]
  | outgoing msg routingTable failed now =>
    rw [packets, UdpState.sendsTo]
    by_cases passes : endpoint.core.checkOutgoing routingTable msg = true
    · have once : ((s.targets endpoint now).filter fun addr => !failed addr).count addr ≤ 1 :=
        List.nodup_iff_count_le_one.mp ((targets_nodup s now).filter _) addr
      have copies :
          packetsTo addr (((s.targets endpoint now).filter fun addr => !failed addr).map fun addr => (addr, msg)) =
          List.replicate (((s.targets endpoint now).filter fun addr => !failed addr).count addr) msg := by
        generalize (s.targets endpoint now).filter _ = addrs
        induction addrs with
        | nil => rfl
        | cons first rest ih =>
          simp only [packetsTo, List.map_cons, List.filter_cons] at ih ⊢
          by_cases own : first = addr <;> simp [own, ih, List.replicate_succ]
      simp only [if_pos passes, copies, outgoing, Option.bind_some, passing, Option.toList_some]
      exact List.replicate_sublist_iff.mpr (by simpa using once)
    · simp [passes, packetsTo]

theorem runPackets_cons (s : UdpState) (event : UdpEvent) (rest : List UdpEvent) :
    runPackets readers endpoint s (event :: rest) =
      packets endpoint s event ++ runPackets readers endpoint (s.step readers endpoint event) rest := by
  simp [runPackets, trace]

theorem runPackets_sublist (s : UdpState) (events : List UdpEvent) (addr : SocketAddr) :
    (packetsTo addr (runPackets readers endpoint s events)).Sublist
      ((events.filterMap outgoing).filterMap (passing endpoint.core)) := by
  induction events generalizing s with
  | nil => simp [runPackets, trace, packetsTo]
  | cons event rest ih =>
    have both := (packets_sublist endpoint s event addr).append (ih (s.step readers endpoint event))
    rw [runPackets_cons]
    cases asked : outgoing event with
    | none => simpa [packetsTo, asked] using both
    | some msg => cases passes : passing endpoint.core msg <;> simpa [packetsTo, asked, passes] using both

structure SendsCounted (stats : EndpointStats) (sent : List (SocketAddr × RoutedMessage)) (later : EndpointStats) :
    Prop where
  msgsOut : later.msgsOut = stats.msgsOut + UInt64.ofNat sent.length
  bytesOut : later.bytesOut =
    stats.bytesOut + UInt64.ofNat (sent.map fun packet => packet.2.serializedBytes.length).sum
  ingress : later.msgsIn = stats.msgsIn ∧ later.bytesIn = stats.bytesIn

theorem SendsCounted.trans {stats between later : EndpointStats} {older newer : List (SocketAddr × RoutedMessage)}
    (first : SendsCounted stats older between) (second : SendsCounted between newer later) :
    SendsCounted stats (older ++ newer) later := by
  constructor
  · rw [second.msgsOut, first.msgsOut, List.length_append, UInt64.ofNat_add, UInt64.add_assoc]
  · rw [second.bytesOut, first.bytesOut, List.map_append, List.sum_append, UInt64.ofNat_add, UInt64.add_assoc]
  · exact ⟨second.ingress.1.trans first.ingress.1, second.ingress.2.trans first.ingress.2⟩

theorem sendsCounted_nil (stats : EndpointStats) : SendsCounted stats [] stats := by
  constructor <;> simp

theorem send_counted (msg : RoutedMessage) (failed : SocketAddr → Bool) (addrs : List SocketAddr) (s : UdpState) :
    SendsCounted s.stats ((addrs.filter fun addr => !failed addr).map fun addr => (addr, msg))
      (addrs.foldl (UdpState.sent msg.serializedBytes.length.toUInt64 failed) s).stats := by
  induction addrs generalizing s with
  | nil => exact sendsCounted_nil s.stats
  | cons addr rest ih =>
    have later := ih (s.sent msg.serializedBytes.length.toUInt64 failed addr)
    rw [List.foldl_cons]
    cases refused : failed addr with
    | true =>
      rw [List.filter_cons_of_neg (by simp [refused])]
      have first : SendsCounted s.stats [] (s.sent msg.serializedBytes.length.toUInt64 failed addr).stats := by
        constructor <;> simp [UdpState.sent, refused]
      exact first.trans later
    | false =>
      rw [List.filter_cons_of_pos (by simp [refused])]
      have first : SendsCounted s.stats [(addr, msg)]
          (s.sent msg.serializedBytes.length.toUInt64 failed addr).stats := by
        constructor <;> simp [UdpState.sent, refused, EndpointStats.recordOutgoing]
      exact first.trans later

theorem step_counted (s : UdpState) (event : UdpEvent) :
    SendsCounted s.stats (packets endpoint s event) (s.step readers endpoint event).stats := by
  cases event with
  | datagram addr bytes now => exact sendsCounted_nil s.stats
  | cleanup now => exact sendsCounted_nil s.stats
  | outgoing msg routingTable failed now => exact send_counted msg failed _ s

theorem events_counted (s : UdpState) (events : List UdpEvent) :
    SendsCounted s.stats (runPackets readers endpoint s events)
      (events.foldl (UdpState.step readers endpoint) s).stats := by
  induction events generalizing s with
  | nil => exact sendsCounted_nil s.stats
  | cons event rest ih =>
    rw [runPackets_cons]
    exact (step_counted s event).trans (ih (s.step readers endpoint event))

variable [Message M] {channel : Broadcast.Channel RoutedMessage}

theorem datagrams_carry_pieces (readers : Readers M) (ahash : List UInt8 → UInt64) (routingTable : RoutingTable)
    (dedupPeriod : Duration) (busCapacity : Nat) (steps : List (Step M)) (feeds : Nat → Feed)
    (fed : ∀ i, handled i steps <+: (feeds i).frames readers) (link : Link)
    (member : link ∈ ((System.start channel routingTable dedupPeriod busCapacity).run ahash steps).links)
    (endpoint : UdpEndpoint) (own : endpoint.core = link.core) (stats : EndpointStats) (events : List UdpEvent)
    (asked : events.filterMap outgoing = link.taken.filterMap Taken.outgoing) :
    let sent := runPackets readers endpoint { clients := ∅, broadcastPeer := none, stats } events
    ∃ pieces, Relays feeds ((System.start channel routingTable dedupPeriod busCapacity).run ahash steps).links link
        pieces ∧
      (∀ addr, (packetsTo addr sent).Sublist (pieces.map Prod.snd)) ∧
      SendsCounted stats sent (runUdp readers endpoint stats events).stats := by
  intro sent
  obtain ⟨pieces, relays⟩ := run_relays ahash readers routingTable dedupPeriod busCapacity steps feeds fed link
    member
  refine ⟨pieces, relays, ?_, events_counted { clients := ∅, broadcastPeer := none, stats } events⟩
  intro addr
  rw [relays.forwarded, ← outgoing_forwarded, ← asked, ← own]
  exact runPackets_sublist _ events addr

def served (routingTable : RoutingTable) : List UdpEvent :=
  [.datagram station heartbeatV1.bytes 1,
    .outgoing ((relayCore 0).routed sampleFrame 1) routingTable (fun _ => false) 2]

theorem relayed_taken : ∃ link taken, link ∈ relayed.links ∧ link.core = relayCore 1 ∧ link.taken = [taken] ∧
    taken.accepted (relayCore 1) = some ((relayCore 0).routed sampleFrame 1) := by
  refine ⟨relayed.links[1], relayed.links[1].taken[0], List.getElem_mem _, rfl, rfl, ?_⟩
  decide +kernel

theorem datagrams_carry_pieces_heartbeat : ∃ link ∈ relayed.links, ∃ pieces,
    Relays relayFeeds relayed.links link pieces ∧
    [(relayCore 0).routed sampleFrame 1].Sublist (pieces.map Prod.snd) := by
  obtain ⟨link, taken, member, core, single, accepted⟩ := relayed_taken
  obtain ⟨message, passes⟩ := (accepted_some ..).mp accepted
  have asked : (served taken.routingTable).filterMap outgoing = link.taken.filterMap Taken.outgoing := by
    rw [single, List.filterMap_cons, Taken.outgoing, message]
    rfl
  obtain ⟨pieces, relays, each, _⟩ := datagrams_carry_pieces commonReaders sampleHash RoutingTable.new 0 16 relay
    relayFeeds relay_fed link member { udpServer with core := relayCore 1 } core.symm ⟨0, 0, 0, 0, 0, 0⟩
    (served taken.routingTable) asked
  refine ⟨link, member, pieces, relays, ?_⟩
  have sent := each station
  simpa [runPackets, trace, packets, packetsTo, served, UdpState.step, UdpState.recv, UdpState.sendsTo, passes,
    UdpState.targets, udpServer] using sent

end MavRouter.Network
