import MavRouter.Framing.Streams
import MavRouter.Shared.Runs

set_option autoImplicit false

namespace MavRouter.Framing

open Draining StreamParser Runs

variable {M : Type} {dialect : Dialect M} {readers : Readers M}

def readChunk (readers : Readers M) (state : List (MavlinkFrame M) × StreamParser) (chunk : List UInt8) :
    List (MavlinkFrame M) × StreamParser :=
  let drained := (state.2.push chunk).drain readers
  (state.1 ++ drained.1, drained.2)

def readerLoop (readers : Readers M) (chunks : List (List UInt8)) : List (MavlinkFrame M) × StreamParser :=
  chunks.foldl (readChunk readers) ([], StreamParser.new)

theorem push_fits (parser : StreamParser) (data : List UInt8)
    (fits : parser.buffer = [] ∨ parser.buffer.length + data.length ≤ maxBufferSize) :
    parser.push data = ⟨parser.buffer ++ data⟩ := by
  have pushed := parser.push_buffer data
  have whole : parser.buffer.drop (saturatingAdd parser.buffer.length data.length - maxBufferSize) = parser.buffer := by
    cases fits with
    | inl empty => rw [empty, List.drop_nil]
    | inr small => rw [Nat.sub_eq_zero_of_le (by rw [saturatingAdd]; omega), List.drop_zero]
  rw [whole] at pushed
  exact congrArg StreamParser.mk pushed

theorem push_volume (parser : StreamParser) (data : List UInt8) :
    (parser.push data).buffer.length ≤ parser.buffer.length + data.length := by
  rw [StreamParser.push_buffer, List.length_append, List.length_drop]
  omega

theorem push_drops (parser : StreamParser) (data : List UInt8) (kept : parser.buffer ≠ [])
    (overflows : maxBufferSize < parser.buffer.length + data.length) :
    (parser.push data).buffer.length < parser.buffer.length + data.length := by
  have positive := List.length_pos_iff.mpr kept
  have clipped : maxBufferSize < saturatingAdd parser.buffer.length data.length := by
    simp only [saturatingAdd, usizeMax, maxBufferSize] at overflows ⊢
    omega
  rw [StreamParser.push_buffer, List.length_append, List.length_drop]
  omega

def wholeAt : List (ValidFrame dialect) → Nat → List (ValidFrame dialect)
  | [], _ => []
  | frame :: rest, position =>
    if position < frame.bytes.length then [] else frame :: wholeAt rest (position - frame.bytes.length)

def cutAt : List (ValidFrame dialect) → Nat → List UInt8
  | [], _ => []
  | frame :: rest, position =>
    if position < frame.bytes.length then frame.bytes.take position else cutAt rest (position - frame.bytes.length)

theorem take_position (frames : List (ValidFrame dialect)) (position : Nat) :
    (bytesOf frames).take position = bytesOf (wholeAt frames position) ++ cutAt frames position := by
  induction frames generalizing position with
  | nil => simp [wholeAt, cutAt]
  | cons frame rest ih =>
    by_cases inside : position < frame.bytes.length
    · simp [wholeAt, cutAt, inside, List.take_append_of_le_length (Nat.le_of_lt inside)]
    · have split : frame.bytes ++ bytesOf rest = bytesOf (frame :: rest) := (bytesOf_cons frame rest).symm
      simp only [wholeAt, cutAt, inside, if_false, bytesOf_cons, List.append_assoc, ← ih]
      rw [List.take_append, List.take_of_length_le (by omega)]

theorem wholeAt_prefix (frames : List (ValidFrame dialect)) (position further : Nat) (later : position ≤ further) :
    wholeAt frames position <+: wholeAt frames further := by
  induction frames generalizing position further with
  | nil => exact List.prefix_rfl
  | cons frame rest ih =>
    by_cases inside : position < frame.bytes.length
    · simp [wholeAt, inside]
    · have beyond : ¬further < frame.bytes.length := by omega
      simp only [wholeAt, inside, beyond, if_false, List.prefix_cons_inj]
      exact ih _ _ (by omega)

theorem wholeAt_subset (frames : List (ValidFrame dialect)) (position : Nat) : wholeAt frames position ⊆ frames := by
  induction frames generalizing position with
  | nil => exact List.Subset.refl _
  | cons frame rest ih =>
    simp only [wholeAt]
    split_ifs
    · exact List.nil_subset _
    · exact List.cons_subset_cons frame (ih _)

theorem wholeAt_end (frames : List (ValidFrame dialect)) : wholeAt frames (bytesOf frames).length = frames := by
  induction frames with
  | nil => rfl
  | cons frame rest ih => simp [wholeAt, ih]

theorem position_start (frames : List (ValidFrame dialect)) : wholeAt frames 0 = [] ∧ cutAt frames 0 = [] := by
  cases frames with
  | nil => exact ⟨rfl, rfl⟩
  | cons frame rest =>
    have long := frame.complete.long
    have inside : 0 < frame.bytes.length := by omega
    simp [wholeAt, cutAt, inside]

theorem cutAt_part (frames : List (ValidFrame dialect)) (position : Nat) (cut : cutAt frames position ≠ []) :
    ∃ frame ∈ frames, ∃ missing, frame.bytes = cutAt frames position ++ missing ∧ missing ≠ [] := by
  induction frames generalizing position with
  | nil => exact absurd rfl cut
  | cons frame rest ih =>
    by_cases inside : position < frame.bytes.length
    · simp only [cutAt, inside, if_true] at cut ⊢
      exact ⟨frame, by simp, frame.bytes.drop position, (List.take_append_drop ..).symm, by simpa using inside⟩
    · simp only [cutAt, inside, if_false] at cut ⊢
      obtain ⟨other, member, further⟩ := ih _ cut
      exact ⟨other, List.mem_cons_of_mem _ member, further⟩

theorem drain_frames (scans : Scans dialect readers) (frames : List (ValidFrame dialect))
    (allV2 : ∀ frame ∈ frames, frame.version = .v2) (rest : List UInt8) :
    StreamParser.drain readers ⟨bytesOf frames ++ rest⟩ =
      (frames.map ValidFrame.frame ++ (StreamParser.drain readers ⟨rest⟩).1,
        (StreamParser.drain readers ⟨rest⟩).2) := by
  induction frames with
  | nil => rfl
  | cons frame later ih =>
    have found := parseNext_v2_frame scans frame (bytesOf later ++ rest) (allV2 frame (by simp))
    rw [← List.append_assoc, ← bytesOf_cons] at found
    have further := ih (fun other member => allV2 other (List.mem_cons_of_mem _ member))
    rw [drain_goes_on readers _ _ _ found, further]
    rfl

theorem drain_cut (scans : Scans dialect readers) (frame : ValidFrame dialect) (isV2 : frame.version = .v2)
    (pending missing : List UInt8) (split : frame.bytes = pending ++ missing) (lacking : missing ≠ [])
    (started : pending ≠ []) :
    (¬readers.Accepts .v1 pending → StreamParser.drain readers ⟨pending⟩ = ([], ⟨pending⟩)) ∧
    (readers.Accepts .v1 pending → ∃ taken ∈ (StreamParser.drain readers ⟨pending⟩).1, taken.version = .v1) := by
  have complete := frame.complete
  rw [isV2, split] at complete
  obtain ⟨tail, shape⟩ : ∃ tail, pending = MavlinkVersion.v2.stx :: tail := by
    cases pending with
    | nil => exact absurd rfl started
    | cons byte tail =>
      have starts := complete.starts
      simp only [List.cons_append, List.head?_cons, Option.some.injEq] at starts
      exact ⟨tail, by rw [starts]⟩
  have starts : StartsWithStx pending := ⟨_, tail, shape, stx_isStx .v2⟩
  have eof := scans.truncated .v2 pending (by simp [shape]) (complete.cut lacking)
  have other : ¬readers.Accepts .v2 pending := by
    rintro ⟨found, position, taken⟩
    rw [taken] at eof
    cases eof
  constructor
  · intro quiet
    have waiting : ¬(readers.Rejects .v2 pending ∧ readers.Rejects .v1 pending) := by
      rintro ⟨⟨error, position, failed, notEof⟩, _⟩
      rw [failed] at eof
      cases eof
      cases notEof
    exact drain_stops readers _ _ (parseNext_waits readers pending starts other quiet waiting)
  · rintro ⟨⟨header, message⟩, len, taken⟩
    have found := parseNext_accepts_v1 readers pending starts other header message len taken
    rw [drain_goes_on readers _ _ _ found]
    exact ⟨_, List.mem_cons_self, rfl⟩

-- What may happen at the boundary before a chunk and at the one behind it: the bytes of a cut frame fit into the
-- buffer with the chunk, and the v1 reader takes nothing from the bytes of the frame the chunk leaves cut.
def ChunkSafe (readers : Readers M) (frames : List (ValidFrame dialect)) (fed : List (List UInt8))
    (chunk : List UInt8) : Prop :=
  (cutAt frames fed.flatten.length = [] ∨
    (cutAt frames fed.flatten.length).length + chunk.length ≤ maxBufferSize) ∧
  ¬readers.Accepts .v1 (cutAt frames (fed.flatten.length + chunk.length))

def Follows (frames : List (ValidFrame dialect)) (fed : List (List UInt8))
    (state : List (MavlinkFrame M) × StreamParser) : Prop :=
  state = ((wholeAt frames fed.flatten.length).map ValidFrame.frame, ⟨cutAt frames fed.flatten.length⟩)

def Spoiled (fed : List (List UInt8)) (state : List (MavlinkFrame M) × StreamParser) : Prop :=
  (∃ frame ∈ state.1, frame.version = .v1) ∨
    (state.1.flatMap MavlinkFrame.rawBytes).length + state.2.buffer.length < fed.flatten.length

theorem readChunk_volume (readers : Readers M) (state : List (MavlinkFrame M) × StreamParser) (chunk : List UInt8) :
    ((readChunk readers state chunk).1.flatMap MavlinkFrame.rawBytes).length +
        (readChunk readers state chunk).2.buffer.length ≤
      (state.1.flatMap MavlinkFrame.rawBytes).length + (state.2.push chunk).buffer.length := by
  have volume : (((state.2.push chunk).drain readers).1.flatMap MavlinkFrame.rawBytes).length +
      ((state.2.push chunk).drain readers).2.buffer.length ≤ (state.2.push chunk).buffer.length :=
    (StreamParser.source readers).drain_volume (state.2.push chunk)
  simp only [readChunk, List.flatMap_append, List.length_append]
  omega

theorem spoiled_stays (readers : Readers M) (fed : List (List UInt8)) (chunk : List UInt8)
    (state : List (MavlinkFrame M) × StreamParser) (spoiled : Spoiled fed state) :
    Spoiled (fed ++ [chunk]) (readChunk readers state chunk) := by
  cases spoiled with
  | inl foreign =>
    obtain ⟨frame, member, isV1⟩ := foreign
    exact .inl ⟨frame, List.mem_append_left _ member, isV1⟩
  | inr lost =>
    have volume := readChunk_volume readers state chunk
    have pushed := push_volume state.2 chunk
    right
    simp only [List.flatten_append, List.flatten_singleton, List.length_append]
    omega

theorem position_split (frames : List (ValidFrame dialect)) (fed unfed : List UInt8)
    (stream : fed ++ unfed = bytesOf frames) :
    fed = bytesOf (wholeAt frames fed.length) ++ cutAt frames fed.length := by
  have taken := take_position frames fed.length
  rwa [← stream, List.take_left'] at taken
  rfl

theorem cut_extends (frames : List (ValidFrame dialect)) (fed chunk unfed : List UInt8)
    (stream : fed ++ chunk ++ unfed = bytesOf frames) :
    ∃ passed, wholeAt frames (fed.length + chunk.length) = wholeAt frames fed.length ++ passed ∧
      cutAt frames fed.length ++ chunk = bytesOf passed ++ cutAt frames (fed.length + chunk.length) := by
  obtain ⟨passed, extended⟩ := wholeAt_prefix frames fed.length (fed.length + chunk.length) (by omega)
  refine ⟨passed, extended.symm, ?_⟩
  have before := position_split frames fed (chunk ++ unfed) (by rw [← stream, List.append_assoc])
  have after := position_split frames (fed ++ chunk) unfed stream
  rw [List.length_append, ← extended, bytesOf_append] at after
  apply (List.append_right_inj (bytesOf (wholeAt frames fed.length))).mp
  calc bytesOf (wholeAt frames fed.length) ++ (cutAt frames fed.length ++ chunk)
    _ = fed ++ chunk := by rw [← List.append_assoc, ← before]
    _ = _ := by rw [after, List.append_assoc]

theorem drain_cutAt (scans : Scans dialect readers) (frames : List (ValidFrame dialect))
    (allV2 : ∀ frame ∈ frames, frame.version = .v2) (position : Nat) :
    (¬readers.Accepts .v1 (cutAt frames position) →
      StreamParser.drain readers ⟨cutAt frames position⟩ = ([], ⟨cutAt frames position⟩)) ∧
    (readers.Accepts .v1 (cutAt frames position) →
      ∃ taken ∈ (StreamParser.drain readers ⟨cutAt frames position⟩).1, taken.version = .v1) := by
  by_cases nothing : cutAt frames position = []
  · rw [nothing]
    constructor
    · intro _
      exact drain_stops readers _ _ (parseNext_nil readers)
    · rintro ⟨found, length, taken⟩
      have inside := readers.advances _ _ _ _ taken
      rw [List.length_nil] at inside
      omega
  · obtain ⟨frame, member, missing, split, lacking⟩ := cutAt_part frames position nothing
    exact drain_cut scans frame (allV2 frame member) _ missing split lacking nothing

theorem readChunk_fits (scans : Scans dialect readers) (frames : List (ValidFrame dialect))
    (allV2 : ∀ frame ∈ frames, frame.version = .v2) (fed chunk unfed : List UInt8)
    (stream : fed ++ chunk ++ unfed = bytesOf frames)
    (fits : cutAt frames fed.length = [] ∨ (cutAt frames fed.length).length + chunk.length ≤ maxBufferSize) :
    readChunk readers ((wholeAt frames fed.length).map ValidFrame.frame, ⟨cutAt frames fed.length⟩) chunk =
      ((wholeAt frames (fed.length + chunk.length)).map ValidFrame.frame ++
        (StreamParser.drain readers ⟨cutAt frames (fed.length + chunk.length)⟩).1,
        (StreamParser.drain readers ⟨cutAt frames (fed.length + chunk.length)⟩).2) := by
  obtain ⟨passed, whole, joined⟩ := cut_extends frames fed chunk unfed stream
  have passedV2 : ∀ frame ∈ passed, frame.version = .v2 := by
    intro frame member
    apply allV2 frame
    apply wholeAt_subset frames (fed.length + chunk.length)
    rw [whole]
    exact List.mem_append_right _ member
  have pushed := push_fits ⟨cutAt frames fed.length⟩ chunk fits
  have drained := drain_frames scans passed passedV2 (cutAt frames (fed.length + chunk.length))
  rw [joined] at pushed
  simp only [readChunk, pushed, drained, whole, List.map_append, List.append_assoc]

theorem readChunk_keeps (scans : Scans dialect readers) (frames : List (ValidFrame dialect))
    (allV2 : ∀ frame ∈ frames, frame.version = .v2) (fed : List (List UInt8)) (chunk : List UInt8)
    (unfed : List (List UInt8)) (state : List (MavlinkFrame M) × StreamParser)
    (stream : fed.flatten ++ chunk ++ unfed.flatten = bytesOf frames) (follows : Follows frames fed state)
    (safe : ChunkSafe readers frames fed chunk) : Follows frames (fed ++ [chunk]) (readChunk readers state chunk) := by
  unfold Follows at follows ⊢
  rw [follows, readChunk_fits scans frames allV2 fed.flatten chunk unfed.flatten stream safe.1,
    (drain_cutAt scans frames allV2 _).1 safe.2, List.append_nil, List.flatten_append, List.flatten_singleton,
    List.length_append]

theorem readChunk_spoils (scans : Scans dialect readers) (frames : List (ValidFrame dialect))
    (allV2 : ∀ frame ∈ frames, frame.version = .v2) (fed : List (List UInt8)) (chunk : List UInt8)
    (unfed : List (List UInt8)) (state : List (MavlinkFrame M) × StreamParser)
    (stream : fed.flatten ++ chunk ++ unfed.flatten = bytesOf frames) (follows : Follows frames fed state)
    (mishap : ¬ChunkSafe readers frames fed chunk) : Spoiled (fed ++ [chunk]) (readChunk readers state chunk) := by
  unfold Follows at follows
  rw [follows]
  by_cases fits : cutAt frames fed.flatten.length = [] ∨
      (cutAt frames fed.flatten.length).length + chunk.length ≤ maxBufferSize
  · have accepts := Classical.not_not.mp (fun quiet => mishap ⟨fits, quiet⟩)
    obtain ⟨taken, member, isV1⟩ := (drain_cutAt scans frames allV2 _).2 accepts
    left
    rw [readChunk_fits scans frames allV2 fed.flatten chunk unfed.flatten stream fits]
    exact ⟨taken, List.mem_append_right _ member, isV1⟩
  · rw [not_or] at fits
    right
    have volume := readChunk_volume readers
      ((wholeAt frames fed.flatten.length).map ValidFrame.frame, ⟨cutAt frames fed.flatten.length⟩) chunk
    have dropped := push_drops ⟨cutAt frames fed.flatten.length⟩ chunk fits.1 (Nat.lt_of_not_le fits.2)
    have raw : ((wholeAt frames fed.flatten.length).map ValidFrame.frame).flatMap MavlinkFrame.rawBytes =
        bytesOf (wholeAt frames fed.flatten.length) := raw_frames readers _
    have before := congrArg List.length
      (position_split frames fed.flatten (chunk ++ unfed.flatten) (by rw [← stream, List.append_assoc]))
    rw [List.length_append] at before
    simp only [raw] at volume
    simp only [List.flatten_append, List.flatten_singleton, List.length_append] at volume dropped ⊢
    omega

theorem chunked_stream_agrees (scans : Scans dialect readers) (frames : List (ValidFrame dialect))
    (allV2 : ∀ frame ∈ frames, frame.version = .v2) (chunks : List (List UInt8))
    (split : chunks.flatten = bytesOf frames) :
    (readerLoop readers chunks).1 = ((StreamParser.new.push (bytesOf frames)).drain readers).1 ↔
      EachStep (ChunkSafe readers frames) chunks := by
  have whole : ((StreamParser.new.push (bytesOf frames)).drain readers).1 = frames.map ValidFrame.frame :=
    pushed_v2_stream scans frames allV2
  rw [whole]
  have streamAt (fed : List (List UInt8)) (chunk : List UInt8) (unfed : List (List UInt8))
      (parts : chunks = fed ++ chunk :: unfed) : fed.flatten ++ chunk ++ unfed.flatten = bytesOf frames := by
    rw [← split, parts]
    simp
  have reached := follows_or_spoiled (readChunk readers) ([], StreamParser.new) (ChunkSafe readers frames)
    (Follows frames) Spoiled chunks
    (by simp [Follows, position_start frames, StreamParser.new])
    (fun fed chunk unfed state parts =>
      readChunk_keeps scans frames allV2 fed chunk unfed state (streamAt fed chunk unfed parts))
    (fun fed chunk unfed state parts =>
      readChunk_spoils scans frames allV2 fed chunk unfed state (streamAt fed chunk unfed parts))
    (fun fed chunk state => spoiled_stays readers fed chunk state)
  cases reached with
  | inl good =>
    have follows : readerLoop readers chunks = _ := good.2
    rw [follows, split, wholeAt_end]
    exact iff_of_true rfl good.1
  | inr bad =>
    refine iff_of_false ?_ bad.1
    intro same
    have spoiled : Spoiled chunks (readerLoop readers chunks) := bad.2
    cases spoiled with
    | inl foreign =>
      obtain ⟨taken, member, isV1⟩ := foreign
      rw [same, List.mem_map] at member
      obtain ⟨frame, inside, rfl⟩ := member
      cases (allV2 frame inside).symm.trans isV1
    | inr lost =>
      have raw : (frames.map ValidFrame.frame).flatMap MavlinkFrame.rawBytes = bytesOf frames :=
        raw_frames readers frames
      rw [same, raw, split] at lost
      omega

theorem chunked_stream_agrees_heartbeat :
    EachStep (ChunkSafe commonReaders [heartbeatV2]) [heartbeatV2.bytes.take 7, heartbeatV2.bytes.drop 7] :=
  (chunked_stream_agrees (scanReaders_scans common) [heartbeatV2] (by simp [heartbeatV2]) _ (by simp)).mp
    (by decide +kernel)

-- A file transfer whose data is a v1 heartbeat, cut right behind that data.
def heartbeatInPayload : ValidFrame common where
  version := .v2
  bytes := writeV2 ⟨1, 1, 0⟩ 110 ([0, 1, 1] ++ heartbeatV1.bytes)
  message := .fileTransferProtocol 0 1 1 (heartbeatV1.bytes ++ List.replicate 234 0)
  complete := ⟨by decide +kernel, by decide +kernel⟩
  valid := by decide +kernel
  decodes := by rfl

def cutBehindPayload : List (List UInt8) := [heartbeatInPayload.bytes.take 30, heartbeatInPayload.bytes.drop 30]

theorem payload_becomes_frame :
    cutBehindPayload.flatten = bytesOf [heartbeatInPayload] ∧
    (readerLoop commonReaders cutBehindPayload).1 =
      [⟨⟨1, 1, 0⟩, heartbeatMessage, .v1, heartbeatInPayload.bytes.take 30⟩] ∧
    (readerLoop commonReaders cutBehindPayload).1 ≠
      ((StreamParser.new.push (bytesOf [heartbeatInPayload])).drain commonReaders).1 := by
  have pieces : (readerLoop commonReaders cutBehindPayload).1 =
      [⟨⟨1, 1, 0⟩, heartbeatMessage, .v1, heartbeatInPayload.bytes.take 30⟩] := by decide +kernel
  have whole : ((StreamParser.new.push (bytesOf [heartbeatInPayload])).drain commonReaders).1.map
      MavlinkFrame.version = [.v2] := by decide +kernel
  refine ⟨by simp [cutBehindPayload], pieces, ?_⟩
  intro same
  rw [← same, pieces] at whole
  cases whole

end MavRouter.Framing
