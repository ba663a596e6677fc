import MavRouter.Endpoints.StreamSession
import MavRouter.Network.Wire

set_option autoImplicit false

namespace MavRouter.Network

open Draining Endpoints Endpoints.StreamLoop Endpoints.Tlog Framing Ingress Routing
open Broadcast (ring)

def piecesBytes (pieces : List (Nat × RoutedMessage)) : List UInt8 :=
  pieces.flatMap fun piece => piece.2.serializedBytes

/-- The pieces that a connection forwards, by what the wire has of them: the first ones whole, one more at most in part,
and nothing of the rest, which was to go out with the last batch. Those counted are all of them, or all but the last. -/
structure WritesPieces {W : Type} (file : W → List UInt8) (feeds : Nat → Feed) (links : List Link) (link : Link)
    (stats : EndpointStats) (s : StreamState W) (whole torn rest counted : List (Nat × RoutedMessage)) : Prop where
  relays : Relays feeds links link (whole ++ torn ++ rest)
  wire : ∃ part, part <+: piecesBytes torn ∧ file s.writer = piecesBytes whole ++ part
  one : torn.length ≤ 1
  batch : torn.length + rest.length ≤ batchSize + 1
  first : counted <+: whole ++ torn ++ rest
  last : (whole ++ torn ++ rest).length ≤ counted.length + 1
  msgsOut : s.stats.msgsOut = stats.msgsOut + UInt64.ofNat counted.length
  bytesOut : s.stats.bytesOut = stats.bytesOut + UInt64.ofNat (piecesBytes counted).length
  errors : s.stats.errors = stats.errors + s.failures

theorem bytesOf_pieces (pieces : List (Nat × RoutedMessage)) :
    StreamLoop.bytesOf (pieces.map Prod.snd) = piecesBytes pieces := by
  rw [StreamLoop.bytesOf, List.flatMap_map, piecesBytes]

theorem cut_pieces {W : Type} {file : W → List UInt8} {feeds : Nat → Feed} {links : List Link} {link : Link}
    {stats : EndpointStats} {s : StreamState W} {pieces : List (Nat × RoutedMessage)}
    (relays : Relays feeds links link pieces) {done : List RoutedMessage}
    (cut : CutShort file stats link.forwarded done s) (older newer : List RoutedMessage)
    (split : link.forwarded = older ++ newer) (out : StreamLoop.bytesOf older <+: file s.writer)
    (few : newer.length ≤ batchSize + 1) :
    ∃ whole torn rest, pieces = whole ++ torn ++ rest ∧ torn.length + rest.length ≤ newer.length ∧
      WritesPieces file feeds links link stats s whole torn rest (pieces.take done.length) := by
  obtain ⟨front, back, rfl, rfl, rfl⟩ := List.map_eq_append_iff.mp (relays.forwarded.trans split)
  obtain ⟨tail, written⟩ := out
  have wire := cut.wire
  rw [← written, split, StreamLoop.bytesOf, StreamLoop.bytesOf, List.flatMap_append, List.prefix_append_right_inj,
    ← StreamLoop.bytesOf, bytesOf_pieces] at wire
  obtain ⟨whole, torn, rest, part, rfl, one, begun, same⟩ := flatMap_prefix _ back tail wire
  have fewer : torn.length + rest.length ≤ ((whole ++ torn ++ rest).map Prod.snd).length := by
    simp only [List.length_map, List.length_append]
    omega
  have counted : ((front ++ (whole ++ torn ++ rest)).take done.length).map Prod.snd = done := by
    rw [List.map_take, relays.forwarded]
    exact (List.prefix_iff_eq_take.mp cut.first).symm
  have length : ((front ++ (whole ++ torn ++ rest)).take done.length).length = done.length := by
    rw [← List.length_map (f := Prod.snd), counted]
  have regroup : front ++ (whole ++ torn ++ rest) = front ++ whole ++ torn ++ rest := by simp
  refine ⟨front ++ whole, torn, rest, regroup, fewer, regroup ▸ relays, ⟨part, begun, ?_⟩, one, fewer.trans few,
    regroup ▸ List.take_prefix _ _, ?_, ?_, ?_, cut.errors⟩
  · rw [← written, same, bytesOf_pieces, piecesBytes, piecesBytes, List.flatMap_append, List.append_assoc]
  · rw [length, ← regroup, ← List.length_map (f := Prod.snd), relays.forwarded]
    exact cut.last
  · rw [length]
    exact cut.msgsOut
  · rw [← bytesOf_pieces, counted]
    exact cut.bytesOut

variable {M : Type} [Message M] {channel : Broadcast.Channel RoutedMessage}

theorem session_tears_the_last {W : Type} {writer : CutWriter W} {file held : W → List UInt8}
    (buffers : CutBuffers writer file held) (name : String) (created : W)
    (fresh : file created = [] ∧ held created = []) (stats : EndpointStats) (readers : Readers M)
    (ahash : List UInt8 → UInt64) (routingTable : RoutingTable) (dedupPeriod : Duration) (busCapacity : Nat)
    (steps : List (Step M)) (k : Nat) (link : Link)
    (found : ((System.start channel routingTable dedupPeriod busCapacity).run ahash steps).links[k]? = some link)
    (events : List SessionEvent) (lived : Lived readers writer link.core name created stats events)
    (asked : deliveries events = link.taken.map Taken.delivery)
    (heard : handled k steps <+: (StreamSession.run readers writer link.core name created stats events).reader.1)
    (feeds : Nat → Feed) (own : feeds k = .stream (reads events))
    (fed : ∀ i, i ≠ k → handled i steps <+: (feeds i).frames readers) :
    let s := StreamSession.run readers writer link.core name created stats events
    let links := ((System.start channel routingTable dedupPeriod busCapacity).run ahash steps).links
    s.reader.1 = (Feed.stream (reads events)).frames readers ∧
    ∃ whole torn rest counted, WritesPieces file feeds links link stats s.writing whole torn rest counted ∧
      (s.returned = none → counted = whole ++ torn ++ rest ∧ (s.writing.batch = none → torn = [] ∧ rest = [])) := by
  intro s links
  have keeps : SessionKeeps readers file held link.core stats events s :=
    run_keeps_session name buffers created fresh events lived
  have read : s.reader.1 = (Feed.stream (reads events)).frames readers := congrArg Prod.fst keeps.heard
  refine ⟨read, ?_⟩
  have all (i : Nat) : handled i steps <+: (feeds i).frames readers := by
    by_cases here : i = k
    · rw [here, own, ← read]
      exact heard
    · exact fed i here
  obtain ⟨pieces, relays⟩ := run_relays ahash readers routingTable dedupPeriod busCapacity steps feeds all link
    (List.mem_of_getElem? found)
  have forwarded : StreamLoop.accepted link.core (deliveries events) = link.forwarded := by
    rw [asked, deliveries_forwarded]
  cases returned : s.returned with
  | none =>
    obtain ⟨delivered, older, newer, split, batched⟩ := keeps.running returned
    have intact := delivered.toWritten.intact
    rw [forwarded] at intact split
    obtain ⟨whole, torn, rest, rfl, fewer, writes⟩ := cut_pieces relays intact older newer split batched.out
      (batched.few.trans (Nat.le_succ _))
    refine ⟨whole, torn, rest, _, writes, fun _ => ⟨?_, fun awaited => ?_⟩⟩
    · rw [← relays.forwarded, List.length_map, List.take_length]
    · rw [batched.awaited awaited, List.length_nil] at fewer
      constructor <;> apply List.eq_nil_of_length_eq_zero <;> omega
  | some result =>
    obtain ⟨done, cut⟩ := keeps.sent
    obtain ⟨older, newer, split, out, few⟩ := keeps.behind
    rw [forwarded] at cut split
    obtain ⟨whole, torn, rest, _, _, writes⟩ := cut_pieces relays cut older newer split out few
    exact ⟨whole, torn, rest, _, writes, by simp⟩

def bufStream : CutWriter BufWriter where
  toWriter := bufWriter
  dropped w bytes point := ⟨w.inner ++ (w.buf ++ bytes).take point, []⟩

theorem bufStream_buffers : CutBuffers bufStream BufWriter.inner BufWriter.buf where
  toBuffers := bufWriter_buffers
  outWrite w bytes := by
    change w.inner <+: (w.writeAll bytes).inner
    rw [BufWriter.writeAll]
    split_ifs <;> simp
  outFlush w := List.prefix_append _ _
  outDropped w bytes point := List.prefix_append _ _
  cutWrite w bytes e later failed := by cases failed
  cutFlush w e later failed := by cases failed
  cutDropped w bytes point := by
    rw [List.append_assoc]
    exact (List.prefix_append_right_inj _).mpr (List.take_prefix point (w.buf ++ bytes))

-- The other side hangs up while the heartbeat is flushed.
def hangUp (link : Link) : List SessionEvent := link.taken.map fun taken => .ends .eof (.flush taken.delivery 5)

def hangUpFeeds (i : Nat) : Feed := .stream (if i = 0 then [heartbeatV2.bytes] else [])

theorem hangUp_session (link : Link) :
    deliveries (hangUp link) = link.taken.map Taken.delivery ∧ hangUpFeeds 1 = .stream (reads (hangUp link)) := by
  simp [deliveries, reads, hangUp, hangUpFeeds, SessionEvent.delivery, SessionEvent.chunk, Underway.delivery,
    Function.comp_def]

theorem hangUp_fed (i : Nat) : handled i relay <+: (hangUpFeeds i).frames commonReaders := by
  have read := relay_fed i
  simp only [relayFeeds] at read
  simp only [hangUpFeeds]
  split_ifs at read ⊢
  · exact read
  · exact read.trans List.nil_prefix

theorem hangUp_lived : Lived commonReaders bufStream relayed.links[1].core "TCP Client" ⟨[], []⟩ ⟨0, 0, 0, 0, 0, 0⟩
    (hangUp relayed.links[1]) := by
  have one : (hangUp relayed.links[1]).length = 1 := rfl
  intro before event after split
  rw [split, List.length_append, List.length_cons] at one
  obtain rfl : before = [] := List.eq_nil_of_length_eq_zero (by omega)
  rfl

-- The heartbeat is counted, and five bytes of it are out.
theorem session_tears_the_last_heartbeat : ∃ whole torn rest counted,
    let s := StreamSession.run commonReaders bufStream relayed.links[1].core "TCP Client" ⟨[], []⟩
      ⟨0, 0, 0, 0, 0, 0⟩ (hangUp relayed.links[1])
    WritesPieces BufWriter.inner hangUpFeeds relayed.links relayed.links[1] ⟨0, 0, 0, 0, 0, 0⟩ s.writing whole torn rest
      counted ∧
    s.writing.stats.msgsOut = 1 ∧ s.writing.writer.inner = heartbeatV2.bytes.take 5 := by
  obtain ⟨asked, own⟩ := hangUp_session relayed.links[1]
  have silent : handled 1 relay = [] := rfl
  obtain ⟨_, whole, torn, rest, counted, writes, _⟩ := session_tears_the_last bufStream_buffers "TCP Client" ⟨[], []⟩
    ⟨rfl, rfl⟩ ⟨0, 0, 0, 0, 0, 0⟩ commonReaders sampleHash RoutingTable.new 0 16 relay 1 relayed.links[1] rfl
    (hangUp relayed.links[1]) hangUp_lived asked (silent ▸ List.nil_prefix) hangUpFeeds own fun i _ => hangUp_fed i
  refine ⟨whole, torn, rest, counted, writes, ?_, ?_⟩ <;> decide +kernel

end MavRouter.Network
