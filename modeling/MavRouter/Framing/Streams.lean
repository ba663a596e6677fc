import MavRouter.Framing.StreamParser
import MavRouter.Framing.Common

set_option autoImplicit false

namespace MavRouter.Framing

open Draining StreamParser

variable {M : Type} {dialect : Dialect M} {readers : Readers M}

def ValidFrame.frame (frame : ValidFrame dialect) : MavlinkFrame M :=
  ⟨frameHeader frame.version frame.bytes, frame.message, frame.version, frame.bytes⟩

def bytesOf (frames : List (ValidFrame dialect)) : List UInt8 := frames.flatMap ValidFrame.bytes

@[simp] theorem bytesOf_nil : bytesOf ([] : List (ValidFrame dialect)) = [] := rfl

@[simp] theorem bytesOf_cons (frame : ValidFrame dialect) (rest : List (ValidFrame dialect)) :
    bytesOf (frame :: rest) = frame.bytes ++ bytesOf rest := by
  simp [bytesOf]

@[simp] theorem bytesOf_append (older newer : List (ValidFrame dialect)) :
    bytesOf (older ++ newer) = bytesOf older ++ bytesOf newer := by
  simp [bytesOf]

theorem raw_frames (readers : Readers M) (frames : List (ValidFrame dialect)) :
    (frames.map ValidFrame.frame).flatMap (StreamParser.source readers).raw = bytesOf frames := by
  induction frames with
  | nil => rfl
  | cons frame rest ih =>
    rw [List.map_cons, List.flatMap_cons, ih, bytesOf_cons]
    rfl

@[simp] theorem push_new (data : List UInt8) : StreamParser.new.push data = ⟨data⟩ := by
  have pushed := StreamParser.new.push_buffer data
  rw [StreamParser.new, List.drop_nil, List.nil_append] at pushed
  exact congrArg StreamParser.mk pushed

theorem parseNext_v2_frame (scans : Scans dialect readers) (frame : ValidFrame dialect) (rest : List UInt8)
    (isV2 : frame.version = .v2) :
    StreamParser.parseNext readers ⟨frame.bytes ++ rest⟩ = (some frame.frame, ⟨rest⟩) := by
  have found := scans.accepted frame rest
  rw [isV2] at found
  rw [parseNext_accepts_v2 readers _ (frame.complete.startsWithStx rest) _ _ _ found]
  simp [ValidFrame.frame, isV2]

theorem parseNext_v1_frame (scans : Scans dialect readers) (frame : ValidFrame dialect) (rest : List UInt8)
    (isV1 : frame.version = .v1) :
    StreamParser.parseNext readers ⟨frame.bytes ++ rest⟩ = (some frame.frame, ⟨rest⟩) ↔
      ¬readers.Accepts .v2 (frame.bytes ++ rest) := by
  have starts := frame.complete.startsWithStx rest
  constructor
  · rintro result ⟨⟨header, message⟩, len, taken⟩
    rw [parseNext_accepts_v2 readers _ starts _ _ _ taken] at result
    simp [ValidFrame.frame, isV1] at result
  · intro other
    have found := scans.accepted frame rest
    rw [isV1] at found
    rw [parseNext_accepts_v1 readers _ starts other _ _ _ found]
    simp [ValidFrame.frame, isV1]

def NoV2AfterV1 (readers : Readers M) (frames : List (ValidFrame dialect)) : Prop :=
  ∀ older frame newer, frames = older ++ frame :: newer → frame.version = .v1 →
    ¬readers.Accepts .v2 (bytesOf (frame :: newer))

theorem noV2AfterV1_cons (frame : ValidFrame dialect) (rest : List (ValidFrame dialect)) :
    NoV2AfterV1 readers (frame :: rest) ↔
      (frame.version = .v1 → ¬readers.Accepts .v2 (bytesOf (frame :: rest))) ∧ NoV2AfterV1 readers rest :=
  Runs.forall_split_cons (fun (frame : ValidFrame dialect) newer =>
    frame.version = .v1 → ¬readers.Accepts .v2 (bytesOf (frame :: newer))) frame rest

theorem noV2AfterV1_of_v2 (frames : List (ValidFrame dialect)) (allV2 : ∀ frame ∈ frames, frame.version = .v2) :
    NoV2AfterV1 readers frames := by
  intro older frame newer parts isV1
  rw [allV2 frame (by simp [parts])] at isV1
  cases isV1

theorem parseNext_frame (scans : Scans dialect readers) (frame : ValidFrame dialect) (rest : List UInt8) :
    StreamParser.parseNext readers ⟨frame.bytes ++ rest⟩ = (some frame.frame, ⟨rest⟩) ↔
      (frame.version = .v1 → ¬readers.Accepts .v2 (frame.bytes ++ rest)) := by
  cases version : frame.version with
  | v1 => simpa using parseNext_v1_frame scans frame rest version
  | v2 => simpa using parseNext_v2_frame scans frame rest version

theorem delivers_frames (scans : Scans dialect readers) (frames : List (ValidFrame dialect)) :
    (StreamParser.source readers).Delivers ⟨bytesOf frames⟩ (frames.map ValidFrame.frame) ↔
      NoV2AfterV1 readers frames := by
  induction frames with
  | nil =>
    constructor
    · intro _ older frame newer split
      simp at split
    · intro _
      exact ⟨⟨[]⟩, parseNext_nil readers, rfl⟩
  | cons frame rest ih =>
    rw [noV2AfterV1_cons, ← ih, bytesOf_cons, ← parseNext_frame scans frame (bytesOf rest)]
    constructor
    · rintro ⟨⟨buffer⟩, found, content, further⟩
      rw [raw_frames] at content
      change buffer = bytesOf rest at content
      subst content
      exact ⟨found, further⟩
    · rintro ⟨found, further⟩
      exact ⟨⟨bytesOf rest⟩, found, (raw_frames readers rest).symm, further⟩

theorem pushed_v2_stream (scans : Scans dialect readers) (frames : List (ValidFrame dialect))
    (allV2 : ∀ frame ∈ frames, frame.version = .v2) :
    ((StreamParser.new.push (bytesOf frames)).drain readers).1 = frames.map ValidFrame.frame := by
  rw [push_new]
  exact ((delivers_frames scans frames).mpr (noV2AfterV1_of_v2 frames allV2)).drain.1

theorem pushed_stream_splits (scans : Scans dialect readers) (frames : List (ValidFrame dialect)) :
    ((StreamParser.new.push (bytesOf frames)).drain readers).1 = frames.map ValidFrame.frame ↔
      NoV2AfterV1 readers frames := by
  rw [push_new, ← delivers_frames scans frames]
  exact (StreamParser.source readers).delivers_iff ⟨bytesOf frames⟩ _ (raw_frames readers frames).symm

theorem pushed_stream_splits_v2_first : NoV2AfterV1 commonReaders [heartbeatV2, heartbeatV1] :=
  (pushed_stream_splits (scanReaders_scans common) [heartbeatV2, heartbeatV1]).mp (by decide +kernel)

theorem v1_frame_swallowed :
    ((StreamParser.new.push (bytesOf [heartbeatV1, heartbeatV2])).drain commonReaders).1 =
      [⟨⟨1, 1, 0⟩, heartbeatMessage, .v2, heartbeatV1.bytes ++ heartbeatV2.bytes⟩] ∧
    ((StreamParser.new.push (bytesOf [heartbeatV1, heartbeatV2])).drain commonReaders).1 ≠
      [heartbeatV1, heartbeatV2].map ValidFrame.frame := by
  have swallowed : ((StreamParser.new.push (bytesOf [heartbeatV1, heartbeatV2])).drain commonReaders).1 =
      [⟨⟨1, 1, 0⟩, heartbeatMessage, .v2, heartbeatV1.bytes ++ heartbeatV2.bytes⟩] := by decide +kernel
  refine ⟨swallowed, ?_⟩
  rw [swallowed]
  intro same
  cases congrArg List.length same

theorem rejected_frame_passed (scans : Scans dialect readers) (rejected : RejectedFrame dialect)
    (frames : List (ValidFrame dialect)) (followed : frames ≠ []) :
    (StreamParser.source readers).Delivers ⟨rejected.bytes ++ bytesOf frames⟩ (frames.map ValidFrame.frame) ↔
      Discarded readers rejected.bytes (bytesOf frames) ∧ NoV2AfterV1 readers frames := by
  rw [← delivers_frames scans frames]
  have moved (discarded : Discarded readers rejected.bytes (bytesOf frames)) :
      (StreamParser.source readers).Delivers ⟨rejected.bytes ++ bytesOf frames⟩ (frames.map ValidFrame.frame) ↔
        (StreamParser.source readers).Delivers ⟨bytesOf frames⟩ (frames.map ValidFrame.frame) := by
    have same := parseNext_discarded readers rejected.bytes (bytesOf frames) discarded
    cases frames with
    | nil => exact absurd rfl followed
    | cons frame rest => simp only [List.map_cons, Source.Delivers, StreamParser.source, same]
  constructor
  · intro delivers
    have discarded : Discarded readers rejected.bytes (bytesOf frames) := by
      cases frames with
      | nil => exact absurd rfl followed
      | cons frame rest =>
        obtain ⟨later, found, content, _⟩ := delivers
        obtain ⟨skipped, split, _, discarded⟩ := parseNext_some readers _ later frame.frame found
        rw [raw_frames] at content
        change later.buffer = bytesOf rest at content
        have tail : frame.frame.rawBytes ++ later.buffer = bytesOf (frame :: rest) := by
          rw [content, bytesOf_cons]
          rfl
        rw [tail] at split discarded
        have front : rejected.bytes = skipped := List.append_cancel_right split
        rwa [front]
    exact ⟨discarded, (moved discarded).mp delivers⟩
  · rintro ⟨discarded, delivers⟩
    exact (moved discarded).mpr delivers

theorem rejected_frame_stalls (scans : Scans dialect readers) (rejected : RejectedFrame dialect) (rest : List UInt8)
    (other : MavlinkVersion) (differs : other ≠ rejected.version)
    (absent : other.stx ∉ rejected.bytes ++ rest) :
    StreamParser.parseNext readers ⟨rejected.bytes ++ rest⟩ = (none, ⟨rejected.bytes ++ rest⟩) := by
  have own := scans.rejected rejected rest
  have foreign := scans.exhausted other _ absent
  have refuses (version : MavlinkVersion) : ¬readers.Accepts version (rejected.bytes ++ rest) := by
    rintro ⟨found, position, taken⟩
    by_cases same : version = rejected.version
    · rw [same] at taken
      rw [taken] at own
      cases own
    · have isOther : version = other := by
        revert same differs
        cases version <;> cases other <;> cases rejected.version <;> simp
      rw [isOther] at taken
      rw [taken] at foreign
      cases foreign
  have wants : ¬readers.Rejects other (rejected.bytes ++ rest) := by
    rintro ⟨error, position, failed, notEof⟩
    rw [failed] at foreign
    cases foreign
    cases notEof
  apply parseNext_waits readers _ (rejected.complete.startsWithStx rest) (refuses .v2) (refuses .v1)
  rintro ⟨noV2, noV1⟩
  cases other with
  | v1 => exact wants noV1
  | v2 => exact wants noV2

-- A file transfer whose data is a v1 heartbeat of the unknown type, which gives the v1 reader something to refuse.
def unknownTypeInPayload : ValidFrame common where
  version := .v2
  bytes := writeV2 ⟨1, 1, 0⟩ 110 ([0, 1, 1] ++ writeV1 ⟨1, 1, 0⟩ 0 unknownTypePayload)
  message := .fileTransferProtocol 0 1 1 (writeV1 ⟨1, 1, 0⟩ 0 unknownTypePayload ++ List.replicate 234 0)
  complete := ⟨by decide +kernel, by decide +kernel⟩
  valid := by decide +kernel
  decodes := by rfl

theorem rejected_frame_passed_unknown_type :
    Discarded commonReaders unknownTypeV2.bytes (bytesOf [unknownTypeInPayload]) ∧
      NoV2AfterV1 commonReaders [unknownTypeInPayload] :=
  (rejected_frame_passed (scanReaders_scans common) unknownTypeV2 [unknownTypeInPayload] (by simp)).mp
    ⟨⟨[]⟩, by decide +kernel, rfl, ⟨[]⟩, by decide +kernel, rfl⟩

-- No 0xFE in either frame, so the v1 reader runs out of bytes and the parser waits for more, for good.
theorem unknown_type_stalls :
    StreamParser.drain commonReaders ⟨unknownTypeV2.bytes ++ bytesOf [heartbeatV2]⟩ =
      ([], ⟨unknownTypeV2.bytes ++ bytesOf [heartbeatV2]⟩) ∧
    ¬(StreamParser.source commonReaders).Delivers ⟨unknownTypeV2.bytes ++ bytesOf [heartbeatV2]⟩
        ([heartbeatV2].map ValidFrame.frame) := by
  have stalled : StreamParser.drain commonReaders ⟨unknownTypeV2.bytes ++ bytesOf [heartbeatV2]⟩ =
      ([], ⟨unknownTypeV2.bytes ++ bytesOf [heartbeatV2]⟩) := by decide +kernel
  refine ⟨stalled, ?_⟩
  intro delivers
  have drained := delivers.drain.1
  change (StreamParser.drain commonReaders _).1 = _ at drained
  rw [stalled] at drained
  cases drained

end MavRouter.Framing
