import MavRouter.Config.SocketAddr
import MavRouter.Endpoints.Udp
import MavRouter.Ingress.Core
import MavRouter.Shared.Runs

set_option autoImplicit false

namespace MavRouter.Endpoints.Udp

open Maps Framing Ingress Routing Runs

def isBroadcastAddr (addr : SocketAddr) : Bool :=
  match addr.ip with
  | .v4 octets => decide (octets = [255, 255, 255, 255]) || decide (octets.getD 3 0 = 255)
  | .v6 _ _ => false

structure UdpEndpoint where
  core : EndpointCore
  targetAddr : Option SocketAddr
  cleanupTtlSecs : Nat
  broadcastTimeoutSecs : Nat

def UdpEndpoint.broadcastMode (endpoint : UdpEndpoint) : Bool := endpoint.targetAddr.any isBroadcastAddr

structure UdpState where
  clients : HashMap SocketAddr Instant
  broadcastPeer : Option (SocketAddr × Instant)
  stats : EndpointStats

/-- What the three loops wake up for; `failed` are the addresses send_to reports an error for. -/
inductive UdpEvent where
  | datagram (addr : SocketAddr) (bytes : List UInt8) (now : Instant)
  | outgoing (msg : RoutedMessage) (routingTable : RoutingTable) (failed : SocketAddr → Bool) (now : Instant)
  | cleanup (now : Instant)

def UdpEvent.time : UdpEvent → Instant
  | .datagram _ _ now => now
  | .outgoing _ _ _ now => now
  | .cleanup now => now

namespace UdpState

variable {M : Type}

-- The sender is noted before anything is read of the datagram.
def recv (readers : Readers M) (endpoint : UdpEndpoint) (addr : SocketAddr) (bytes : List UInt8) (now : Instant)
    (s : UdpState) : Option (MavlinkFrame M) × UdpState :=
  let broadcastPeer :=
    match endpoint.targetAddr with
    | some bcastAddr =>
      if endpoint.broadcastMode && decide (addr ≠ bcastAddr) && !isBroadcastAddr addr then some (addr, now)
      else s.broadcastPeer
    | none => s.broadcastPeer
  (recvFrame readers bytes, { s with clients := s.clients.insert addr now, broadcastPeer })

def sendAddr (endpoint : UdpEndpoint) (target : SocketAddr) (now : Instant) (s : UdpState) : SocketAddr :=
  match s.broadcastPeer with
  | some (addr, lastSeen) =>
    if Instant.durationSince now lastSeen < Duration.fromSecs endpoint.broadcastTimeoutSecs then addr else target
  | none => target

def targets (endpoint : UdpEndpoint) (now : Instant) (s : UdpState) : List SocketAddr :=
  match endpoint.targetAddr with
  | some target => [if endpoint.broadcastMode then s.sendAddr endpoint target now else target]
  | none => s.clients.keys

def sendsTo (endpoint : UdpEndpoint) (msg : RoutedMessage) (routingTable : RoutingTable) (now : Instant)
    (s : UdpState) : List SocketAddr :=
  if endpoint.core.checkOutgoing routingTable msg then s.targets endpoint now else []

def sent (pktLen : UInt64) (failed : SocketAddr → Bool) (s : UdpState) (target : SocketAddr) : UdpState :=
  if failed target then { s with stats := { s.stats with errors := s.stats.errors + 1 } }
  else { s with stats := s.stats.recordOutgoing pktLen }

def send (endpoint : UdpEndpoint) (msg : RoutedMessage) (routingTable : RoutingTable) (failed : SocketAddr → Bool)
    (now : Instant) (s : UdpState) : UdpState :=
  (s.sendsTo endpoint msg routingTable now).foldl (sent msg.serializedBytes.length.toUInt64 failed) s

def cleanup (endpoint : UdpEndpoint) (now : Instant) (s : UdpState) : UdpState :=
  { s with
    clients := s.clients.retain fun _ lastSeen =>
      decide (Instant.durationSince now lastSeen < Duration.fromSecs endpoint.cleanupTtlSecs) }

def step (readers : Readers M) (endpoint : UdpEndpoint) (s : UdpState) : UdpEvent → UdpState
  | .datagram addr bytes now => (s.recv readers endpoint addr bytes now).2
  | .outgoing msg routingTable failed now => s.send endpoint msg routingTable failed now
  | .cleanup now => s.cleanup endpoint now

end UdpState

section Run

variable {M : Type} (readers : Readers M) (endpoint : UdpEndpoint) (stats : EndpointStats)

def runUdp (events : List UdpEvent) : UdpState :=
  events.foldl (UdpState.step readers endpoint) { clients := ∅, broadcastPeer := none, stats }

def cleanupPeriod : Duration := Duration.fromSecs 60

def OnTime (start : Instant) (older : List UdpEvent) (event : UdpEvent) : Prop :=
  start ≤ event.time ∧ (∀ earlier ∈ older, earlier.time ≤ event.time) ∧
    ∃ tick, (tick = start ∨ .cleanup tick ∈ older) ∧ event.time ≤ tick + cleanupPeriod

def Parseable (bytes : List UInt8) : Prop := (recvFrame readers bytes).isSome = true

def InWindow (now lastSeen : Instant) : Prop :=
  match endpoint.targetAddr with
  | some _ => now < lastSeen + Duration.fromSecs endpoint.broadcastTimeoutSecs
  | none => now ≤ lastSeen + Duration.fromSecs endpoint.cleanupTtlSecs + cleanupPeriod

def HeardFrom (older : List UdpEvent) (now : Instant) (addr : SocketAddr) : Prop :=
  ∃ bytes lastSeen, .datagram addr bytes lastSeen ∈ older ∧ Parseable readers bytes ∧ InWindow endpoint now lastSeen

structure PeersOnly (events : List UdpEvent) : Prop where
  sends : ∀ older msg routingTable failed now, older ++ [.outgoing msg routingTable failed now] <+: events →
    ∀ addr ∈ (runUdp readers endpoint stats older).sendsTo endpoint msg routingTable now,
      endpoint.targetAddr = some addr ∨ HeardFrom readers endpoint older now addr
  silent : ∀ older addr bytes now, older ++ [.datagram addr bytes now] <+: events → ¬Parseable readers bytes →
    ∀ later, (runUdp readers endpoint stats (older ++ [.datagram addr bytes now])).targets endpoint later ⊆
      (runUdp readers endpoint stats older).targets endpoint later

end Run

def UdpEndpoint.tracks (endpoint : UdpEndpoint) (addr : SocketAddr) : Bool :=
  match endpoint.targetAddr with
  | some bcastAddr => endpoint.broadcastMode && decide (addr ≠ bcastAddr) && !isBroadcastAddr addr
  | none => true

structure Noted (endpoint : UdpEndpoint) (start : Instant) (older : List UdpEvent) (s : UdpState) : Prop where
  clients : ∀ addr lastSeen, s.clients.lookup addr = some lastSeen →
    (∃ bytes, .datagram addr bytes lastSeen ∈ older) ∧ start ≤ lastSeen ∧
      ∀ tick, .cleanup tick ∈ older →
        tick ≤ lastSeen ∨ tick < lastSeen + Duration.fromSecs endpoint.cleanupTtlSecs
  peer : ∀ addr lastSeen, s.broadcastPeer = some (addr, lastSeen) →
    (∃ bytes, .datagram addr bytes lastSeen ∈ older) ∧ endpoint.tracks addr = true

section Sending

variable (endpoint : UdpEndpoint) (msg : RoutedMessage) (routingTable : RoutingTable) (failed : SocketAddr → Bool)
  (now : Instant) (s : UdpState)

theorem send_keeps : (s.send endpoint msg routingTable failed now).clients = s.clients ∧
    (s.send endpoint msg routingTable failed now).broadcastPeer = s.broadcastPeer := by
  rw [UdpState.send]
  generalize s.sendsTo endpoint msg routingTable now = addrs
  induction addrs generalizing s with
  | nil => exact ⟨rfl, rfl⟩
  | cons addr rest ih =>
    obtain ⟨clients, peer⟩ := ih (s.sent msg.serializedBytes.length.toUInt64 failed addr)
    rw [List.foldl_cons, clients, peer, UdpState.sent]
    split_ifs <;> exact ⟨rfl, rfl⟩

end Sending

section Step

variable {M : Type} {readers : Readers M} {endpoint : UdpEndpoint} {start : Instant} {older : List UdpEvent}
  {s : UdpState}

theorem Noted.extend (noted : Noted endpoint start older s) (event : UdpEvent) (later : UdpState)
    (clients : ∀ addr lastSeen, later.clients.lookup addr = some lastSeen → s.clients.lookup addr = some lastSeen ∧
      ∀ tick, event = .cleanup tick → tick < lastSeen + Duration.fromSecs endpoint.cleanupTtlSecs)
    (peer : later.broadcastPeer = s.broadcastPeer) : Noted endpoint start (older ++ [event]) later where
  clients := by
    intro addr lastSeen found
    obtain ⟨stored, recent⟩ := clients addr lastSeen found
    obtain ⟨⟨bytes, received⟩, first, young⟩ := noted.clients addr lastSeen stored
    refine ⟨⟨bytes, List.mem_append_left _ received⟩, first, ?_⟩
    intro tick member
    cases List.mem_append.mp member with
    | inl old => exact young tick old
    | inr last => exact .inr (recent tick (List.mem_singleton.mp last).symm)
  peer := by
    intro addr lastSeen found
    rw [peer] at found
    obtain ⟨⟨bytes, received⟩, tracked⟩ := noted.peer addr lastSeen found
    exact ⟨⟨bytes, List.mem_append_left _ received⟩, tracked⟩

theorem Noted.recv (noted : Noted endpoint start older s) (addr : SocketAddr) (bytes : List UInt8) (now : Instant)
    (onTime : OnTime start older (.datagram addr bytes now)) :
    Noted endpoint start (older ++ [.datagram addr bytes now]) (s.recv readers endpoint addr bytes now).2 := by
  have kept : Noted endpoint start (older ++ [.datagram addr bytes now]) s :=
    noted.extend _ s (fun other lastSeen stored => ⟨stored, by simp⟩) rfl
  constructor
  · intro other lastSeen found
    obtain ⟨begun, ordered, _⟩ := onTime
    by_cases own : other = addr
    · subst own
      simp only [UdpState.recv, AList.lookup_insert, Option.some.injEq] at found
      subst found
      refine ⟨⟨bytes, by simp⟩, begun, ?_⟩
      intro tick member
      have earlier : .cleanup tick ∈ older := by simpa using member
      exact .inl (ordered _ earlier)
    · simp only [UdpState.recv, AList.lookup_insert_ne own] at found
      exact kept.clients other lastSeen found
  · intro other lastSeen found
    simp only [UdpState.recv] at found
    cases target : endpoint.targetAddr with
    | none =>
      rw [target] at found
      exact kept.peer other lastSeen found
    | some bcastAddr =>
      rw [target] at found
      simp only at found
      split_ifs at found with unicast
      · cases found
        exact ⟨⟨bytes, by simp⟩, by simpa only [UdpEndpoint.tracks, target] using unicast⟩
      · exact kept.peer other lastSeen found

theorem within (now lastSeen limit : Nat) (recent : Instant.durationSince now lastSeen < limit) :
    now < lastSeen + limit := by
  change now - lastSeen < limit at recent
  omega

theorem Noted.cleanup (noted : Noted endpoint start older s) (now : Instant) :
    Noted endpoint start (older ++ [.cleanup now]) (s.cleanup endpoint now) := by
  refine noted.extend (.cleanup now) (s.cleanup endpoint now) ?_ rfl
  intro addr lastSeen found
  rw [UdpState.cleanup, HashMap.lookup_retain, Option.filter_eq_some_iff] at found
  refine ⟨found.1, ?_⟩
  intro tick same
  cases same
  exact within _ _ _ (of_decide_eq_true found.2)

theorem Noted.send (noted : Noted endpoint start older s) (msg : RoutedMessage) (routingTable : RoutingTable)
    (failed : SocketAddr → Bool) (now : Instant) :
    Noted endpoint start (older ++ [.outgoing msg routingTable failed now])
      (s.send endpoint msg routingTable failed now) := by
  obtain ⟨clients, peer⟩ := send_keeps endpoint msg routingTable failed now s
  refine noted.extend (.outgoing msg routingTable failed now) _ ?_ peer
  intro addr lastSeen found
  rw [clients] at found
  exact ⟨found, by simp⟩

theorem Noted.step (noted : Noted endpoint start older s) (event : UdpEvent) (onTime : OnTime start older event) :
    Noted endpoint start (older ++ [event]) (s.step readers endpoint event) := by
  cases event with
  | datagram addr bytes now => exact noted.recv addr bytes now onTime
  | outgoing msg routingTable failed now => exact noted.send msg routingTable failed now
  | cleanup now => exact noted.cleanup now

theorem runUdp_noted (stats : EndpointStats) (events : List UdpEvent) (onTime : EachStep (OnTime start) events) :
    Noted endpoint start events (runUdp readers endpoint stats events) := by
  revert onTime
  apply run_history (UdpState.step readers endpoint) { clients := ∅, broadcastPeer := none, stats }
    (fun older s => EachStep (OnTime start) older → Noted endpoint start older s)
  · intro _
    constructor
    · intro addr lastSeen found
      simp at found
    · intro addr lastSeen found
      cases found
  · intro older event ih onTime
    obtain ⟨before, here⟩ := (eachStep_concat (OnTime start) older event).mp onTime
    exact (ih before).step event here

end Step

section Peers

variable {M : Type} (readers : Readers M) (endpoint : UdpEndpoint) (start : Instant) (stats : EndpointStats)

def OnlyMessages (events : List UdpEvent) : Prop :=
  ∀ addr bytes now, .datagram addr bytes now ∈ events → endpoint.tracks addr = true → Parseable readers bytes

theorem targets_client (now : Instant) (s : UdpState) (addr : SocketAddr) (server : endpoint.targetAddr = none) :
    addr ∈ s.targets endpoint now ↔ ∃ lastSeen, s.clients.lookup addr = some lastSeen := by
  rw [UdpState.targets, server, ← Option.isSome_iff_exists, AList.lookup_isSome]
  exact AList.mem_keys

theorem targets_peer (now : Instant) (s : UdpState) (addr target : SocketAddr)
    (client : endpoint.targetAddr = some target) (sends : addr ∈ s.targets endpoint now) :
    addr = target ∨ ∃ lastSeen, s.broadcastPeer = some (addr, lastSeen) ∧
      now < lastSeen + Duration.fromSecs endpoint.broadcastTimeoutSecs := by
  simp only [UdpState.targets, client, List.mem_singleton, UdpState.sendAddr] at sends
  cases peer : s.broadcastPeer with
  | none =>
    rw [peer] at sends
    exact .inl (by simpa using sends)
  | some noted =>
    obtain ⟨unicast, lastSeen⟩ := noted
    rw [peer] at sends
    simp only at sends
    split_ifs at sends with broadcast recent
    · subst sends
      exact .inr ⟨lastSeen, rfl, within _ _ _ recent⟩
    · exact .inl sends
    · exact .inl sends

theorem heard_client (older : List UdpEvent) (s : UdpState) (noted : Noted endpoint start older s)
    (messages : OnlyMessages readers endpoint older) (server : endpoint.targetAddr = none) (now : Instant)
    (ticked : ∃ tick, (tick = start ∨ .cleanup tick ∈ older) ∧ now ≤ tick + cleanupPeriod) (addr : SocketAddr)
    (lastSeen : Instant) (known : s.clients.lookup addr = some lastSeen) :
    HeardFrom readers endpoint older now addr := by
  obtain ⟨⟨bytes, received⟩, first, young⟩ := noted.clients addr lastSeen known
  obtain ⟨tick, ticks, soon⟩ := ticked
  have tracked : endpoint.tracks addr = true := by simp only [UdpEndpoint.tracks, server]
  refine ⟨bytes, lastSeen, received, messages addr bytes lastSeen received tracked, ?_⟩
  simp only [InWindow, server]
  have reached : tick ≤ lastSeen ∨ tick < lastSeen + Duration.fromSecs endpoint.cleanupTtlSecs := by
    rcases ticks with rfl | cleaned
    · exact .inl first
    · exact young tick cleaned
  have bound (a b c d e : Nat) (reached : a ≤ b ∨ a < b + c) (soon : e ≤ a + d) : e ≤ b + c + d := by omega
  exact bound _ _ _ _ _ reached soon

theorem targets_untracked (addr : SocketAddr) (bytes : List UInt8) (now later : Instant) (s : UdpState)
    (untracked : endpoint.tracks addr = false) :
    (s.recv readers endpoint addr bytes now).2.targets endpoint later = s.targets endpoint later := by
  rw [UdpEndpoint.tracks] at untracked
  cases target : endpoint.targetAddr with
  | none => simp [target] at untracked
  | some bcastAddr =>
    simp only [target] at untracked
    simp only [UdpState.targets, UdpState.recv, target, untracked, Bool.false_eq_true, if_false, UdpState.sendAddr]

theorem udp_sends_to_peers (events : List UdpEvent) (onTime : EachStep (OnTime start) events)
    (messages : OnlyMessages readers endpoint events) : PeersOnly readers endpoint stats events := by
  constructor
  · intro older msg routingTable failed now inside addr sends
    have past := eachStep_prefix _ _ _ onTime inside
    obtain ⟨before, here⟩ := (eachStep_concat (OnTime start) older _).mp past
    have noted : Noted endpoint start older (runUdp readers endpoint stats older) := runUdp_noted stats older before
    have heard : OnlyMessages readers endpoint older := fun addr bytes now member =>
      messages addr bytes now (inside.subset (List.mem_append_left _ member))
    rw [UdpState.sendsTo] at sends
    split_ifs at sends with allowed
    · cases target : endpoint.targetAddr with
      | none =>
        obtain ⟨lastSeen, known⟩ := (targets_client endpoint now _ addr target).mp sends
        exact .inr (heard_client readers endpoint start older _ noted heard target now here.2.2 addr lastSeen known)
      | some bcastAddr =>
        rcases targets_peer endpoint now _ addr bcastAddr target sends with rfl | ⟨lastSeen, peer, recent⟩
        · exact .inl rfl
        · obtain ⟨⟨bytes, received⟩, tracked⟩ := noted.peer addr lastSeen peer
          refine .inr ⟨bytes, lastSeen, received, heard addr bytes lastSeen received tracked, ?_⟩
          simp only [InWindow, target]
          exact recent
    · cases sends
  · intro older addr bytes now inside silent later
    have untracked : endpoint.tracks addr = false := by
      rw [Bool.eq_false_iff]
      intro tracked
      exact silent (messages addr bytes now (inside.subset (by simp)) tracked)
    have unchanged := targets_untracked readers endpoint addr bytes now later (runUdp readers endpoint stats older)
      untracked
    rw [runUdp, List.foldl_concat]
    exact fun other member => unchanged ▸ member

end Peers

def udpServer : UdpEndpoint where
  core := { id := ⟨1⟩, filters := {}, updateRouting := true, stats := 0 }
  targetAddr := none
  cleanupTtlSecs := 300
  broadcastTimeoutSecs := 5

def udpBroadcast : UdpEndpoint := { udpServer with targetAddr := some ⟨.v4 [192, 168, 1, 255], 14550⟩ }

def station : SocketAddr := ⟨.v4 [192, 168, 1, 9], 40000⟩

def announcement : RoutedMessage where
  sourceId := ⟨0⟩
  header := ⟨1, 1, 0⟩
  messageId := 0
  version := .v2
  timestampUs := 0
  serializedBytes := heartbeatV2.bytes
  target := ⟨0, 0⟩

def exchange (bytes : List UInt8) : List UdpEvent :=
  [.datagram station bytes 1, .outgoing announcement RoutingTable.new (fun _ => false) 2]

theorem exchange_onTime (bytes : List UInt8) : EachStep (OnTime 0) (exchange bytes) := by
  have soon : 2 ≤ cleanupPeriod := by decide
  have first : EachStep (OnTime 0) ([] ++ [UdpEvent.datagram station bytes 1]) := by
    rw [eachStep_concat]
    exact ⟨eachStep_nil _, Nat.zero_le _, by simp, 0, .inl rfl,
      Nat.le_trans (Nat.le_trans (Nat.le_succ 1) soon) (Nat.le_add_left _ _)⟩
  refine (eachStep_concat _ [UdpEvent.datagram station bytes 1] _).mpr ⟨first, Nat.zero_le _, ?_, 0, .inl rfl, ?_⟩
  · intro earlier member
    rw [List.mem_singleton.mp member]
    exact Nat.le_succ 1
  · exact Nat.le_trans soon (Nat.le_add_left _ _)

theorem udp_sends_to_peers_heartbeat :
    PeersOnly commonReaders udpServer ⟨0, 0, 0, 0, 0, 0⟩ (exchange heartbeatV2.bytes) := by
  apply udp_sends_to_peers commonReaders udpServer 0 ⟨0, 0, 0, 0, 0, 0⟩ _ (exchange_onTime heartbeatV2.bytes)
  intro addr bytes now member _
  simp only [exchange, List.mem_cons, UdpEvent.datagram.injEq, reduceCtorEq, List.not_mem_nil, or_false] at member
  rw [member.2.1, Parseable]
  decide +kernel

theorem stray_datagram_makes_recipient :
    let stray : List UInt8 := [104, 105]
    let received := [UdpEvent.datagram station stray 1]
    EachStep (OnTime 0) (exchange stray) ∧ ¬Parseable commonReaders stray ∧
      ∀ endpoint, endpoint = udpServer ∨ endpoint = udpBroadcast →
        (runUdp commonReaders endpoint ⟨0, 0, 0, 0, 0, 0⟩ received).sendsTo endpoint announcement RoutingTable.new 2 =
            [station] ∧
          ¬PeersOnly commonReaders endpoint ⟨0, 0, 0, 0, 0, 0⟩ (exchange stray) := by
  intro stray received
  have garbage : ¬Parseable commonReaders stray := by
    rw [Parseable]
    decide +kernel
  refine ⟨exchange_onTime stray, garbage, ?_⟩
  intro endpoint either
  have sends : (runUdp commonReaders endpoint ⟨0, 0, 0, 0, 0, 0⟩ received).sendsTo endpoint announcement
      RoutingTable.new 2 = [station] := by
    rcases either with rfl | rfl <;> decide
  have elsewhere : endpoint.targetAddr ≠ some station := by
    rcases either with rfl | rfl <;> decide
  refine ⟨sends, ?_⟩
  intro peers
  have heard := peers.sends received announcement RoutingTable.new (fun _ => false) 2
    (List.prefix_refl _) station (by rw [sends]; exact List.mem_singleton_self station)
  rcases heard with target | ⟨bytes, lastSeen, member, parsed, _⟩
  · exact elsewhere target
  · simp only [received, List.mem_singleton, UdpEvent.datagram.injEq] at member
    rw [member.2.1] at parsed
    exact garbage parsed

end MavRouter.Endpoints.Udp
