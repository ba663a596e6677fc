import MavRouter.Endpoints.StreamLoop
import MavRouter.Endpoints.UdpPeers
import MavRouter.Framing.Conservation
import MavRouter.Network.Forwarding

set_option autoImplicit false

namespace MavRouter.Network

open Draining Framing Ingress Routing Runs
open Broadcast (ring)
open Endpoints (recvFrame recvFrames)

variable {M : Type}

inductive Feed where
  | stream (chunks : List (List UInt8))
  | datagrams (packets : List (List UInt8))

namespace Feed

def bytes : Feed → List UInt8
  | .stream chunks => chunks.flatten
  | .datagrams packets => packets.flatten

def frames (readers : Readers M) : Feed → List (MavlinkFrame M)
  | .stream chunks => (readerLoop readers chunks).1
  | .datagrams packets => packets.flatMap (recvFrames readers)

end Feed

theorem readerLoop_carved (readers : Readers M) (chunks : List (List UInt8)) :
    Carved chunks.flatten ((readerLoop readers chunks).1.map MavlinkFrame.rawBytes)
    (readerLoop readers chunks).2.buffer := by
  apply run_history (readChunk readers) ([], StreamParser.new)
    (fun chunks state => Carved chunks.flatten (state.1.map MavlinkFrame.rawBytes) state.2.buffer)
  · exact .rest [] []
  · intro chunks chunk carved
    generalize chunks.foldl (readChunk readers) ([], StreamParser.new) = state at carved ⊢
    have pushed : Carved (chunks ++ [chunk]).flatten (state.1.map MavlinkFrame.rawBytes)
        (state.2.push chunk).buffer := by
      rw [StreamParser.push_buffer, List.flatten_append, List.flatten_singleton]
      exact (carved.shrink (List.drop_suffix _ _)).extend chunk
    rw [readChunk, List.map_append]
    exact (StreamParser.source readers).carved_drain pushed

theorem recvFrame_prefix (readers : Readers M) (datagram : List UInt8) (frame : MavlinkFrame M)
    (found : recvFrame readers datagram = some frame) : frame.rawBytes <+: datagram := by
  have inside (len : Nat) : (datagram.take Endpoints.recvBufferSize).take len <+: datagram :=
    (List.take_prefix _ _).trans (List.take_prefix _ _)
  simp only [recvFrame] at found
  split at found
  · cases found
    exact inside _
  · split at found
    · cases found
      exact inside _
    · cases found

theorem datagrams_carved (readers : Readers M) (packets : List (List UInt8)) :
    Carved packets.flatten ((packets.flatMap (recvFrames readers)).map MavlinkFrame.rawBytes) [] := by
  induction packets with
  | nil => exact .rest [] []
  | cons packet rest ih =>
    rw [List.flatten_cons, List.flatMap_cons, List.map_append, recvFrames]
    cases found : recvFrame readers packet with
    | none => exact ih.skip packet
    | some frame =>
      obtain ⟨behind, split⟩ := recvFrame_prefix readers packet frame found
      rw [← split, List.append_assoc]
      exact .piece [] frame.rawBytes (ih.skip behind)

theorem Feed.carved (readers : Readers M) (feed : Feed) :
    ∃ left, Carved feed.bytes ((feed.frames readers).map MavlinkFrame.rawBytes) left := by
  cases feed with
  | stream chunks => exact ⟨_, readerLoop_carved readers chunks⟩
  | datagrams packets => exact ⟨[], datagrams_carved readers packets⟩

variable [Message M] {ahash : List UInt8 → UInt64} {channel : Broadcast.Channel RoutedMessage}

def Step.handled (i : Nat) : Step M → Option (MavlinkFrame M)
  | .incoming j frame _ _ => if j = i then some frame else none
  | _ => none

def handled (i : Nat) (steps : List (Step M)) : List (MavlinkFrame M) := steps.filterMap (Step.handled i)

def origin (ahash : List UInt8 → UInt64) (system : System) : Step M → List (Nat × RoutedMessage)
  | .incoming i frame now timestampUs =>
    ((system.incoming ahash i frame now timestampUs).sent.drop system.sent.length).map fun msg => (i, msg)
  | _ => []

def origins (ahash : List UInt8 → UInt64) (system : System) (steps : List (Step M)) : List (Nat × RoutedMessage) :=
  (trace (origin ahash) (System.step ahash) system steps).flatten

theorem origins_cons (system : System) (op : Step M) (rest : List (Step M)) :
    origins ahash system (op :: rest) = origin ahash system op ++ origins ahash (system.step ahash op) rest := by
  simp [origins, trace]

theorem origin_bus (system : System) (op : Step M) :
    (system.step ahash op).sent = system.sent ++ (origin ahash system op).map Prod.snd := by
  obtain ⟨more, sent, grown⟩ := (step_moves ahash system op).sent
  rcases grown with rfl | ⟨i, frame, now, timestampUs, link, rfl, _, _, rfl⟩
  · rw [List.append_nil] at sent
    cases op with
    | incoming i frame now timestampUs =>
      change (system.incoming ahash i frame now timestampUs).sent = system.sent at sent
      simp [System.step, origin, sent]
    | _ => simpa [origin] using sent
  · change (system.incoming ahash i frame now timestampUs).sent = _ at sent
    simp [System.step, origin, sent]

theorem origins_bus (ahash : List UInt8 → UInt64) (system : System) (steps : List (Step M)) :
    (system.run ahash steps).sent = system.sent ++ (origins ahash system steps).map Prod.snd := by
  induction steps generalizing system with
  | nil => simp [System.run, origins, trace]
  | cons op rest ih =>
    have later : (system.run ahash (op :: rest)).sent = _ := ih (system.step ahash op)
    rw [later, origin_bus, origins_cons, List.map_append, List.append_assoc]

def bytesFrom (i : Nat) (pieces : List (Nat × RoutedMessage)) : List (List UInt8) :=
  (pieces.filter fun piece => piece.1 = i).map fun piece => piece.2.serializedBytes

theorem origin_handled (ahash : List UInt8 → UInt64) (system : System) (op : Step M) (i : Nat) :
    (bytesFrom i (origin ahash system op)).Sublist ((op.handled i).toList.map MavlinkFrame.rawBytes) := by
  obtain ⟨more, sent, grown⟩ := (step_moves ahash system op).sent
  cases op with
  | incoming j frame now timestampUs =>
    change (system.incoming ahash j frame now timestampUs).sent = _ at sent
    rw [origin, sent, List.drop_left]
    rcases grown with rfl | ⟨_, _, _, _, link, same, _, _, rfl⟩
    · simp [bytesFrom]
    · cases same
      by_cases here : j = i <;> simp [bytesFrom, Step.handled, EndpointCore.routed, here]
  | _ => simp [bytesFrom, origin]

theorem origins_handled (system : System) (steps : List (Step M)) (i : Nat) :
    (bytesFrom i (origins ahash system steps)).Sublist ((handled i steps).map MavlinkFrame.rawBytes) := by
  induction steps generalizing system with
  | nil => simp [bytesFrom, origins, trace]
  | cons op rest ih =>
    have first := origin_handled ahash system op i
    have both := first.append (ih (system.step ahash op))
    rw [origins_cons]
    cases frame : op.handled i <;> simpa [bytesFrom, handled, frame] using both

theorem origins_sources (ahash : List UInt8 → UInt64) (system : System) (steps : List (Step M))
    (piece : Nat × RoutedMessage) (member : piece ∈ origins ahash system steps) :
    ∃ source, (system.run ahash steps).links[piece.1]? = some source ∧ source.core.id = piece.2.sourceId := by
  induction steps generalizing system with
  | nil => simp [origins, trace] at member
  | cons op rest ih =>
    rw [origins_cons, List.mem_append] at member
    rcases member with here | later
    · obtain ⟨more, sent, grown⟩ := (step_moves ahash system op).sent
      cases op with
      | incoming i frame now timestampUs =>
        change (system.incoming ahash i frame now timestampUs).sent = _ at sent
        rw [origin, sent, List.drop_left] at here
        rcases grown with rfl | ⟨_, _, _, _, link, same, opened, _, rfl⟩
        · simp at here
        · cases same
          obtain rfl : piece = (i, link.core.routed frame timestampUs) := by simpa using here
          obtain ⟨source, found, core, _⟩ := run_keeps ahash system (.incoming i frame now timestampUs :: rest) i link
            (link_some opened).1
          exact ⟨source, found, congrArg EndpointCore.id core⟩
      | _ => simp [origin] at here
    · exact ih (system.step ahash op) later

/-- The messages a connection forwards, with the links they came in on: never one of its own endpoint, and as pieces of
what was read there, in that order and each at most once. -/
structure Relays (feeds : Nat → Feed) (links : List Link) (link : Link) (pieces : List (Nat × RoutedMessage)) :
    Prop where
  forwarded : pieces.map Prod.snd = link.forwarded
  sources : ∀ piece ∈ pieces, ∃ source, links[piece.1]? = some source ∧ source.core.id = piece.2.sourceId
  foreign : ∀ piece ∈ pieces, piece.2.sourceId ≠ link.core.id
  carved : ∀ i, ∃ left, Carved (feeds i).bytes (bytesFrom i pieces) left

theorem forwarded_foreign (link : Link) (msg : RoutedMessage) (forwarded : msg ∈ link.forwarded) :
    msg.sourceId ≠ link.core.id := by
  obtain ⟨_, _, _, _, _, passes⟩ := forwarded_taken link msg forwarded
  simp only [checkOutgoing_eq, wants, Bool.and_eq_true, decide_eq_true_eq] at passes
  exact passes.1.1

theorem run_relays (ahash : List UInt8 → UInt64) (readers : Readers M) (routingTable : RoutingTable)
    (dedupPeriod : Duration) (busCapacity : Nat)
    (steps : List (Step M)) (feeds : Nat → Feed) (fed : ∀ i, handled i steps <+: (feeds i).frames readers) (link : Link)
    (member : link ∈ ((System.start channel routingTable dedupPeriod busCapacity).run ahash steps).links) :
    ∃ pieces, Relays feeds ((System.start channel routingTable dedupPeriod busCapacity).run ahash steps).links link
      pieces := by
  have idle : Sound (System.start channel routingTable dedupPeriod busCapacity) := by simp [Sound, System.start]
  have stands := run_sound ahash idle steps link member
  have bus := origins_bus ahash (System.start channel routingTable dedupPeriod busCapacity) steps
  rw [show (System.start channel routingTable dedupPeriod busCapacity).sent = [] from rfl, List.nil_append] at bus
  have inside : link.forwarded.Sublist
      ((origins ahash (System.start channel routingTable dedupPeriod busCapacity) steps).map Prod.snd) := by
    rw [← bus]
    refine ((forwarded_sublist link.core link.taken).trans List.filter_sublist).trans ?_
    exact stands.follows.sublist.trans ((List.drop_sublist ..).trans (List.take_sublist ..))
  obtain ⟨pieces, taken, same⟩ := List.sublist_map_iff.mp inside
  refine ⟨pieces, same.symm, ?_, ?_, ?_⟩
  · intro piece inside
    exact origins_sources ahash _ steps piece (taken.subset inside)
  · intro piece inside
    exact forwarded_foreign link piece.2 (same ▸ List.mem_map_of_mem inside)
  · intro i
    obtain ⟨left, carved⟩ := (feeds i).carved readers
    have kept : (bytesFrom i pieces).Sublist (((feeds i).frames readers).map MavlinkFrame.rawBytes) := by
      have within : (bytesFrom i pieces).Sublist (bytesFrom i (origins ahash _ steps)) := (taken.filter _).map _
      exact within.trans ((origins_handled _ steps i).trans ((fed i).sublist.map _))
    exact ⟨left, carved.sublist kept⟩

section Stream

open Endpoints Endpoints.StreamLoop Endpoints.Tlog

def answer : Broadcast.Reception RoutedMessage → StreamLoop.Reception
  | .message msg => .message msg
  | .lagged n => .lagged n.toUInt64
  | .empty => .empty

def Taken.delivery (taken : Taken) : Delivery := ⟨answer taken.reception, taken.routingTable, taken.cancelled⟩

theorem delivery_accepted (core : EndpointCore) (taken : Taken) :
    taken.delivery.accepted core = taken.accepted core := by
  cases reception : taken.reception with
  | message msg =>
    simp [Taken.delivery, Taken.accepted, Delivery.accepted, answer, reception, Broadcast.Reception.item,
      Option.filter_some]
  | lagged n => simp [Taken.delivery, Taken.accepted, Delivery.accepted, answer, reception, Broadcast.Reception.item]
  | empty => simp [Taken.delivery, Taken.accepted, Delivery.accepted, answer, reception, Broadcast.Reception.item]

theorem deliveries_forwarded (link : Link) : accepted link.core (link.taken.map Taken.delivery) = link.forwarded := by
  rw [accepted, List.filterMap_map, Link.forwarded]
  exact congrArg (List.filterMap · link.taken) (funext fun taken => delivery_accepted link.core taken)

theorem delivery_open (taken : Taken) (uncancelled : taken.cancelled = false) : taken.delivery.Open := by
  refine ⟨?_, uncancelled⟩
  cases reception : taken.reception <;> simp [Taken.delivery, answer, reception]

theorem stream_writes_pieces {W : Type} {writer : Writer W} {file held : W → List UInt8}
    (buffers : Buffers writer file held) (name : String) (created : W) (fresh : file created = [] ∧ held created = [])
    (stats : EndpointStats) (readers : Readers M) (ahash : List UInt8 → UInt64) (routingTable : RoutingTable)
    (dedupPeriod : Duration) (busCapacity : Nat) (steps : List (Step M)) (feeds : Nat → Feed)
    (fed : ∀ i, handled i steps <+: (feeds i).frames readers) (link : Link)
    (member : link ∈ ((System.start channel routingTable dedupPeriod busCapacity).run ahash steps).links)
    (uncancelled : ∀ taken ∈ link.taken, taken.cancelled = false)
    (fine : (StreamLoop.run writer link.core name created stats (link.taken.map Taken.delivery)).Fine) :
    let s := StreamLoop.run writer link.core name created stats (link.taken.map Taken.delivery)
    ∃ pieces, Relays feeds ((System.start channel routingTable dedupPeriod busCapacity).run ahash steps).links link
        pieces ∧
      file s.writer ++ held s.writer = (pieces.map fun piece => piece.2.serializedBytes).flatten ∧
      (s.batch = none → held s.writer = []) ∧
      s.stats.msgsOut = stats.msgsOut + UInt64.ofNat pieces.length ∧
      s.stats.bytesOut = stats.bytesOut +
        UInt64.ofNat (pieces.map fun piece => piece.2.serializedBytes).flatten.length := by
  intro s
  obtain ⟨pieces, relays⟩ := run_relays ahash readers routingTable dedupPeriod busCapacity steps feeds fed link
    member
  have opened : ∀ delivery ∈ link.taken.map Taken.delivery, delivery.Open := by
    simp only [List.mem_map]
    rintro delivery ⟨taken, inside, rfl⟩
    exact delivery_open taken (uncancelled taken inside)
  have delivered := run_delivered name buffers created fresh (link.taken.map Taken.delivery) opened fine
  have bytes : StreamLoop.bytesOf link.forwarded = (pieces.map fun piece => piece.2.serializedBytes).flatten := by
    rw [← relays.forwarded, StreamLoop.bytesOf, List.flatMap_map, List.flatMap_def]
  have counted : s.stats = account link.core stats (link.taken.map Taken.delivery) := delivered.counted
  refine ⟨pieces, relays, ?_, delivered.flushed, ?_, ?_⟩
  · rw [← bytes, ← deliveries_forwarded]
    exact delivered.written
  · rw [counted, account, deliveries_forwarded, ← relays.forwarded, List.length_map]
  · rw [counted, account, deliveries_forwarded, bytes]

-- What the two connections of the relay read.
def relayFeeds (i : Nat) : Feed := if i = 0 then .stream [heartbeatV2.bytes] else .datagrams []

theorem relay_fed (i : Nat) : handled i relay <+: (relayFeeds i).frames commonReaders := by
  by_cases first : i = 0
  · subst first
    have same : handled 0 relay = (relayFeeds 0).frames commonReaders := by decide +kernel
    exact same ▸ List.prefix_rfl
  · have silent : handled i relay = [] := by simp [handled, relay, Step.handled, Ne.symm first]
    rw [silent]
    exact List.nil_prefix

theorem stream_writes_pieces_heartbeat : ∃ link ∈ relayed.links, ∃ pieces,
    Relays relayFeeds relayed.links link pieces ∧
    heartbeatV2.bytes = (pieces.map fun piece => piece.2.serializedBytes).flatten := by
  have found : relayed.links[1]? = some relayed.links[1] := rfl
  have uncancelled : ∀ taken ∈ relayed.links[1].taken, taken.cancelled = false := by decide +kernel
  have returned : (StreamLoop.run bufWriter relayed.links[1].core "TCP Client" ⟨[], []⟩ ⟨0, 0, 0, 0, 0, 0⟩
      (relayed.links[1].taken.map Taken.delivery)).returned = none := by decide +kernel
  obtain ⟨pieces, relays, written, _⟩ := stream_writes_pieces bufWriter_buffers "TCP Client" ⟨[], []⟩ ⟨rfl, rfl⟩
    ⟨0, 0, 0, 0, 0, 0⟩ commonReaders sampleHash RoutingTable.new 0 16 relay relayFeeds relay_fed relayed.links[1]
    (List.mem_of_getElem? found) uncancelled (by simp [StreamState.Fine, returned])
  refine ⟨relayed.links[1], List.mem_of_getElem? found, pieces, relays, ?_⟩
  rw [← written]
  decide +kernel

end Stream

end MavRouter.Network
