import MavRouter.Framing.Streams

set_option autoImplicit false

namespace MavRouter.Endpoints

open Framing

variable {M : Type} {dialect : Dialect M} {readers : Readers M}

-- The receive buffer of the loop: longer datagrams lose their end.
def recvBufferSize : Nat := 65535

def recvFrame (readers : Readers M) (datagram : List UInt8) : Option (MavlinkFrame M) :=
  let buf := datagram.take recvBufferSize
  match readers.readV2Msg buf with
  | (.ok (header, message), packetLen) => some ⟨header, message, .v2, buf.take packetLen⟩
  | (.error _, _) =>
    match readers.readV1Msg buf with
    | (.ok (header, message), packetLen) => some ⟨header, message, .v1, buf.take packetLen⟩
    | (.error _, _) => none

def recvFrames (readers : Readers M) (datagram : List UInt8) : List (MavlinkFrame M) :=
  (recvFrame readers datagram).toList

theorem announcedLength_maximum (version : MavlinkVersion) (bytes : List UInt8) :
    announcedLength version bytes ≤ 280 := by
  have byte := (bytes.getD 1 0).toNat_lt
  cases version with
  | v1 =>
    simp only [announcedLength]
    omega
  | v2 =>
    simp only [announcedLength]
    split <;> omega

theorem recvFrames_first (scans : Scans dialect readers) (frame : ValidFrame dialect) (isV2 : frame.version = .v2)
    (rest : List UInt8) : recvFrames readers (frame.bytes ++ rest) = [frame.frame] := by
  have bounded : frame.bytes.length ≤ recvBufferSize := by
    have short := announcedLength_maximum frame.version frame.bytes
    rw [frame.complete.length, recvBufferSize]
    omega
  have received : (frame.bytes ++ rest).take recvBufferSize =
      frame.bytes ++ rest.take (recvBufferSize - frame.bytes.length) := by
    rw [List.take_append, List.take_of_length_le bounded]
  have found := scans.accepted frame (rest.take (recvBufferSize - frame.bytes.length))
  rw [isV2] at found
  simp only [recvFrames, recvFrame, received, found, List.take_left', ValidFrame.frame, isV2, Option.toList_some]

theorem datagram_matches_stream (scans : Scans dialect readers) (frames : List (ValidFrame dialect))
    (filled : frames ≠ []) (allV2 : ∀ frame ∈ frames, frame.version = .v2) :
    recvFrames readers (bytesOf frames) = ((StreamParser.new.push (bytesOf frames)).drain readers).1 ↔
      frames.length = 1 := by
  rw [pushed_v2_stream scans frames allV2]
  cases frames with
  | nil => exact absurd rfl filled
  | cons frame rest =>
    rw [bytesOf_cons, recvFrames_first scans frame (allV2 frame (by simp)) (bytesOf rest)]
    cases rest <;> simp

theorem datagram_matches_stream_heartbeat :
    recvFrames commonReaders (bytesOf [heartbeatV2]) =
      ((StreamParser.new.push (bytesOf [heartbeatV2])).drain commonReaders).1 :=
  (datagram_matches_stream (scanReaders_scans common) [heartbeatV2] (by simp) (by simp [heartbeatV2])).mpr rfl

theorem second_frame_of_datagram_lost :
    recvFrames commonReaders (bytesOf [heartbeatV2, heartbeatV2]) = [heartbeatV2.frame] ∧
    recvFrames commonReaders (bytesOf [heartbeatV2, heartbeatV2]) ≠
      ((StreamParser.new.push (bytesOf [heartbeatV2, heartbeatV2])).drain commonReaders).1 := by
  have received : recvFrames commonReaders (bytesOf [heartbeatV2, heartbeatV2]) = [heartbeatV2.frame] := by
    decide +kernel
  have streamed : ((StreamParser.new.push (bytesOf [heartbeatV2, heartbeatV2])).drain commonReaders).1.length = 2 := by
    decide +kernel
  refine ⟨received, ?_⟩
  intro same
  rw [← same, received] at streamed
  cases streamed

end MavRouter.Endpoints
