import Mathlib.Data.List.Forall2
import MavRouter.Network.Delivery
import MavRouter.Network.Sessions

set_option autoImplicit false

namespace MavRouter.Network

open Endpoints.StreamLoop Endpoints.Tlog Framing Ingress Routing Runs
open Broadcast (ring)

variable {M : Type}

theorem readerLoop_follows {dialect : Dialect M} {readers : Readers M} (scans : Scans dialect readers)
    (frames : List (ValidFrame dialect)) (allV2 : ∀ frame ∈ frames, frame.version = .v2) (chunks : List (List UInt8))
    (stream : chunks.flatten = Framing.bytesOf frames) (safe : EachStep (ChunkSafe readers frames) chunks) :
    (readerLoop readers chunks).1 = frames.map ValidFrame.frame := by
  have reached (past : List (List UInt8)) (inside : past <+: chunks) :
      Follows frames past (readerLoop readers past) := by
    revert inside
    apply run_history (readChunk readers) ([], StreamParser.new)
      (fun past state => past <+: chunks → Follows frames past state)
    · intro _
      simp [Follows, position_start frames, StreamParser.new]
    · intro older chunk ih within
      obtain ⟨newer, split⟩ := within
      rw [List.append_assoc, List.singleton_append] at split
      have here : older.flatten ++ chunk ++ newer.flatten = Framing.bytesOf frames := by
        rw [← stream, ← split]
        simp
      exact readChunk_keeps scans frames allV2 older chunk newer _ here (ih ⟨_, split⟩) (safe _ _ _ split.symm)
  have follows := reached chunks List.prefix_rfl
  rw [Follows, stream, wholeAt_end] at follows
  exact congrArg Prod.fst follows

variable [Message M] {ahash : List UInt8 → UInt64} {channel : Broadcast.Channel RoutedMessage}

/-- Whenever a link of that endpoint reads a frame, it is open, its filter passes the frame, and the frame is new. -/
def LetsIn (ahash : List UInt8 → UInt64) (system : System) (steps : List (Step M)) (j : Nat) (core : EndpointCore) :
    Prop :=
  ∀ before frame now timestampUs after, steps = before ++ .incoming j frame now timestampUs :: after →
    ∃ source, (system.run ahash before).link j = some source ∧ source.core = core ∧
      passesFilter core frame = true ∧ isDuplicate ahash (system.run ahash before).router frame = false

def Carries (core : EndpointCore) (frame : MavlinkFrame M) (msg : RoutedMessage) : Prop :=
  ∃ timestampUs, msg = core.routed frame timestampUs

omit [Message M] in
theorem handled_concat (i : Nat) (steps : List (Step M)) (op : Step M) :
    handled i (steps ++ [op]) = handled i steps ++ (op.handled i).toList := by
  rw [handled, List.filterMap_append]
  cases read : op.handled i <;> simp [handled, read]

theorem step_carries (ahash : List UInt8 → UInt64) (system : System) (op : Step M) (j : Nat) (core : EndpointCore)
    (only : ∀ k, k ≠ j → op.handled k = none)
    (listening : ∀ link, system.link j = some link → system.router.bus.receivers ≠ 0)
    (letsIn : ∀ frame now timestampUs, op = .incoming j frame now timestampUs →
      ∃ source, system.link j = some source ∧ source.core = core ∧ passesFilter core frame = true ∧
        isDuplicate ahash system.router frame = false) :
    ∃ more, (system.step ahash op).sent = system.sent ++ more ∧
      List.Forall₂ (Carries core) (op.handled j).toList more := by
  obtain ⟨more, sent, grown⟩ := (step_moves ahash system op).sent
  cases op with
  | incoming k frame now timestampUs =>
    by_cases here : k = j
    · subst here
      obtain ⟨source, opened, rfl, passes, new⟩ := letsIn frame now timestampUs rfl
      have publishes : Publishes ahash system.router source.core frame now timestampUs :=
        (publishes_iff ..).mpr ⟨passes, new, listening source opened⟩
      refine ⟨[source.core.routed frame timestampUs], ?_, ?_⟩
      · simpa [System.step, System.incoming, opened, System.sent, Publishes] using publishes
      · simpa [Step.handled] using ⟨timestampUs, rfl⟩
    · have silent := only k here
      simp [Step.handled] at silent
  | _ =>
    rcases grown with rfl | ⟨_, _, _, _, _, same, _⟩
    · exact ⟨[], sent, .nil⟩
    · cases same

theorem run_carries (system : System) (idle : system.links = []) (unheard : system.router.bus.receivers = 0)
    (quiet : system.sent = []) (steps : List (Step M)) (matched : Matched steps) (j : Nat) (core : EndpointCore)
    (only : ∀ k, k ≠ j → handled k steps = []) (letsIn : LetsIn ahash system steps j core) :
    List.Forall₂ (Carries core) (handled j steps) (system.run ahash steps).sent := by
  revert matched only letsIn
  apply run_history (System.step ahash) system (fun steps reached => Matched steps →
    (∀ k, k ≠ j → handled k steps = []) → LetsIn ahash system steps j core →
      List.Forall₂ (Carries core) (handled j steps) reached.sent)
  · intro _ _ _
    rw [quiet]
    exact .nil
  · intro steps op ih matched only letsIn
    have before : Matched steps := fun past inside => matched past (inside.trans (List.prefix_append _ _))
    have alone (k : Nat) (other : k ≠ j) : handled k steps = [] ∧ op.handled k = none := by
      have none := only k other
      rw [handled_concat, List.append_eq_nil_iff] at none
      exact ⟨none.1, by simpa using none.2⟩
    have carried := ih before (fun k other => (alone k other).1)
      (fun past frame now timestampUs after split =>
        letsIn past frame now timestampUs (after ++ [op]) (by simp [split]))
    obtain ⟨more, sent, last⟩ := step_carries ahash (steps.foldl (System.step ahash) system) op j core
      (fun k other => (alone k other).2) (link_listens ahash system idle unheard steps before j)
      (fun frame now timestampUs same => letsIn steps frame now timestampUs [] (by rw [same]))
    rw [handled_concat, sent]
    exact List.rel_append carried last

theorem carries_bytes {core : EndpointCore} {frames : List (MavlinkFrame M)} {msgs : List RoutedMessage}
    (carried : List.Forall₂ (Carries core) frames msgs) :
    msgs.flatMap RoutedMessage.serializedBytes = frames.flatMap MavlinkFrame.rawBytes := by
  induction carried with
  | nil => rfl
  | cons first _ ih =>
    obtain ⟨timestampUs, rfl⟩ := first
    rw [List.flatMap_cons, List.flatMap_cons, ih]
    rfl

theorem carries_all {core : EndpointCore} {frames : List (MavlinkFrame M)} {msgs : List RoutedMessage}
    (carried : List.Forall₂ (Carries core) frames msgs) (p : RoutedMessage → Bool)
    (each : ∀ frame ∈ frames, ∀ timestampUs, p (core.routed frame timestampUs) = true) :
    ∀ msg ∈ msgs, p msg = true := by
  induction carried with
  | nil => simp
  | cons first _ ih =>
    obtain ⟨timestampUs, rfl⟩ := first
    simp only [List.mem_cons, forall_eq_or_imp] at each ⊢
    exact ⟨each.1 timestampUs, ih each.2⟩

theorem forwarded_whole (link : Link) (bus : List RoutedMessage) (got : Broadcast.items (receptions link) = bus)
    (wanted : ∀ msg ∈ bus, (wants link.core msg && isBroadcast msg) = true) : link.forwarded = bus := by
  have broadcasts : link.forwarded.filter isBroadcast = bus := by
    rw [Link.forwarded, forwarded_broadcasts, ← receptions, got]
    exact List.filter_eq_self.mpr wanted
  have within : link.forwarded.Sublist bus := by
    rw [← got]
    exact (forwarded_sublist link.core link.taken).trans List.filter_sublist
  have long : bus.length ≤ link.forwarded.length := by
    conv_lhs => rw [← broadcasts]
    exact List.length_filter_le _ _
  exact within.eq_of_length_le long

structure CleanInput {dialect : Dialect M} (readers : Readers M) (ahash : List UInt8 → UInt64) (system : System)
    (steps : List (Step M)) (j : Nat) (core : EndpointCore) (chunks : List (List UInt8))
    (frames : List (ValidFrame dialect)) : Prop where
  allV2 : ∀ frame ∈ frames, frame.version = .v2
  broadcast : ∀ frame ∈ frames, (extractTarget frame.message).systemId = 0
  stream : chunks.flatten = Framing.bytesOf frames
  safe : EachStep (ChunkSafe readers frames) chunks
  read : handled j steps = (readerLoop readers chunks).1
  only : ∀ k, k ≠ j → handled k steps = []
  letsIn : LetsIn ahash system steps j core

/-- A link that was there from the beginning, has never been too far behind, and has got everything by now. -/
structure Drained (ahash : List UInt8 → UInt64) (system : System) (steps : List (Step M)) (i : Nat) (link : Link) :
    Prop where
  found : (system.run ahash steps).links[i]? = some link
  began : link.since = 0
  keepsUp : KeepsUp ahash system steps i
  drained : link.next = (system.run ahash steps).sent.length

theorem clean_forwarded {dialect : Dialect M} {readers : Readers M} (scans : Scans dialect readers)
    (routingTable : RoutingTable) (dedupPeriod : Duration) (busCapacity : Nat) (steps : List (Step M))
    (matched : Matched steps) (j : Nat) (core : EndpointCore) (chunks : List (List UInt8))
    (frames : List (ValidFrame dialect))
    (input : CleanInput readers ahash (System.start channel routingTable dedupPeriod busCapacity) steps j core chunks
      frames) (i : Nat) (link : Link)
    (output : Drained ahash (System.start channel routingTable dedupPeriod busCapacity) steps i link)
    (wanted : ∀ frame ∈ frames, ∀ timestampUs, wants link.core (core.routed frame.frame timestampUs) = true) :
    List.Forall₂ (Carries core) (frames.map ValidFrame.frame) link.forwarded := by
  have carried := run_carries _ rfl rfl rfl steps matched j core input.only input.letsIn
  rw [input.read, readerLoop_follows scans frames input.allV2 chunks input.stream input.safe] at carried
  have items := keepsUp_items ahash routingTable dedupPeriod busCapacity steps i link output.found output.keepsUp
  rw [output.drained, List.take_length, output.began, List.drop_zero] at items
  have each : ∀ frame ∈ frames.map ValidFrame.frame, ∀ timestampUs,
      (wants link.core (core.routed frame timestampUs) && isBroadcast (core.routed frame timestampUs)) = true := by
    intro frame member timestampUs
    obtain ⟨valid, inside, rfl⟩ := List.mem_map.mp member
    rw [wanted valid inside timestampUs, isBroadcast]
    exact decide_eq_true (input.broadcast valid inside)
  rw [forwarded_whole link _ items (carries_all carried _ each)]
  exact carried

theorem clean_stream_passes {W : Type} {writer : CutWriter W} {file held : W → List UInt8}
    (buffers : CutBuffers writer file held) (name : String) (created : W)
    (fresh : file created = [] ∧ held created = []) (stats : EndpointStats) {dialect : Dialect M}
    {readers : Readers M} (scans : Scans dialect readers) (ahash : List UInt8 → UInt64) (routingTable : RoutingTable)
    (dedupPeriod : Duration) (busCapacity : Nat) (steps : List (Step M)) (matched : Matched steps) (j : Nat)
    (core : EndpointCore) (chunks : List (List UInt8)) (frames : List (ValidFrame dialect))
    (input : CleanInput readers ahash (System.start channel routingTable dedupPeriod busCapacity) steps j core chunks
      frames) (i : Nat) (link : Link)
    (output : Drained ahash (System.start channel routingTable dedupPeriod busCapacity) steps i link)
    (wanted : ∀ frame ∈ frames, ∀ timestampUs, wants link.core (core.routed frame.frame timestampUs) = true)
    (events : List SessionEvent) (asked : deliveries events = link.taken.map Taken.delivery)
    (running : (StreamSession.run readers writer link.core name created stats events).returned = none)
    (awaits : (StreamSession.run readers writer link.core name created stats events).writing.batch = none) :
    file (StreamSession.run readers writer link.core name created stats events).writing.writer = chunks.flatten := by
  have forwarded := clean_forwarded scans routingTable dedupPeriod busCapacity steps matched j core chunks frames input
    i
    link output wanted
  have keeps : SessionKeeps readers file held link.core stats events
      (StreamSession.run readers writer link.core name created stats events) :=
    run_keeps_session name buffers created fresh events (lived_of_running name created events running)
  obtain ⟨delivered, _⟩ := keeps.running running
  have written := delivered.written
  rw [delivered.flushed awaits, List.append_nil, asked, deliveries_forwarded] at written
  have raw : (frames.map ValidFrame.frame).flatMap MavlinkFrame.rawBytes = Framing.bytesOf frames :=
    raw_frames readers frames
  rw [written, Endpoints.StreamLoop.bytesOf, carries_bytes forwarded, raw, input.stream]

-- The relay, with a look at the bus that finds it empty, so that the batch is flushed.
def flushed : List (Step CommonMessage) := relay ++ [.recvNextBusMsg 1 false]

theorem heartbeat_safe : EachStep (ChunkSafe commonReaders [heartbeatV2]) [heartbeatV2.bytes] := by
  rw [← List.nil_append [heartbeatV2.bytes], eachStep_concat]
  refine ⟨eachStep_nil _, .inl (position_start _).2, ?_⟩
  have nothing : cutAt [heartbeatV2] (([] : List (List UInt8)).flatten.length + heartbeatV2.bytes.length) = [] := by
    decide +kernel
  rw [nothing]
  rintro ⟨found, length, taken⟩
  have inside := commonReaders.advances _ _ _ _ taken
  rw [List.length_nil] at inside
  omega

theorem flushed_input :
    CleanInput commonReaders sampleHash (System.start ring RoutingTable.new 0 16) flushed 0 (relayCore 0)
    [heartbeatV2.bytes] [heartbeatV2] := by
  constructor
  · simp [heartbeatV2]
  · simp only [List.mem_singleton, forall_eq]
    decide +kernel
  · simp
  · exact heartbeat_safe
  · decide +kernel
  · intro k other
    simp [handled, flushed, relay, Step.handled, Ne.symm other]
  · intro before frame now timestampUs after split
    rcases before with _ | ⟨first, _ | ⟨second, _ | ⟨third, rest⟩⟩⟩
    · cases split
    · cases split
    · cases split
      exact ⟨⟨relayCore 0, true, 0, 0, []⟩, rfl, rfl, by decide +kernel, by decide +kernel⟩
    · have later : Step.incoming 0 frame now timestampUs ∈ flushed.drop 3 := by
        rw [split]
        simp
      simp [flushed, relay] at later

def flushedLink : Link := ((System.start ring RoutingTable.new 0 16).run sampleHash flushed).links[1]

theorem flushed_output : Drained sampleHash (System.start ring RoutingTable.new 0 16) flushed 1 flushedLink where
  found := rfl
  began := rfl
  keepsUp := keepsUp_short _ _ _ _ (by decide +kernel)
  drained := by decide +kernel

theorem clean_stream_passes_heartbeat : ∃ events : List SessionEvent,
    (StreamSession.run commonReaders bufStream flushedLink.core "TCP Client" ⟨[], []⟩ ⟨0, 0, 0, 0, 0, 0⟩
      events).writing.writer.inner = [heartbeatV2.bytes].flatten := by
  have matched : Matched flushed := by
    intro past inside
    have none : flushed.countP Step.isUnsubscribe = 0 := rfl
    have fewer := inside.sublist.countP_le (p := Step.isUnsubscribe)
    omega
  refine ⟨flushedLink.taken.map fun taken => .deliver taken.delivery, ?_⟩
  apply clean_stream_passes bufStream_buffers "TCP Client" ⟨[], []⟩ ⟨rfl, rfl⟩ ⟨0, 0, 0, 0, 0, 0⟩
    (scanReaders_scans common) sampleHash RoutingTable.new 0 16 flushed matched 0 (relayCore 0) [heartbeatV2.bytes]
    [heartbeatV2] flushed_input 1 flushedLink flushed_output
  · simp only [List.mem_singleton, forall_eq]
    intro timestampUs
    rfl
  · simp [deliveries, SessionEvent.delivery, Function.comp_def]
  · decide +kernel
  · decide +kernel

end MavRouter.Network
