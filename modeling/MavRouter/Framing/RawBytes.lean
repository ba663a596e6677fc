import MavRouter.Framing.Streams

set_option autoImplicit false

namespace MavRouter.Framing

open Draining StreamParser

variable {M : Type} {dialect : Dialect M} {readers : Readers M}

/-- The raw bytes are one frame, and reading them again gives the frame they came with. -/
structure CarriesItself (dialect : Dialect M) (readers : Readers M) (frame : MavlinkFrame M) : Prop where
  complete : Complete frame.version frame.rawBytes
  valid : dialect.hasValidCrc frame.version frame.rawBytes = true
  decodes : readers.read frame.version frame.rawBytes = (.ok (frame.header, frame.message), frame.rawBytes.length)

theorem carriesItself_iff (scans : Scans dialect readers) (frame : MavlinkFrame M) :
    CarriesItself dialect readers frame ↔ ∃ valid : ValidFrame dialect, valid.frame = frame := by
  constructor
  · intro carries
    obtain ⟨header, message, version, bytes⟩ := frame
    cases decoded : dialect.decode version bytes with
    | error error =>
      have refused := scans.rejected ⟨version, bytes, error, carries.complete, carries.valid, decoded⟩ []
      rw [List.append_nil, carries.decodes] at refused
      cases refused
    | ok known =>
      have accepted := scans.accepted ⟨version, bytes, known, carries.complete, carries.valid, decoded⟩ []
      rw [List.append_nil, carries.decodes] at accepted
      simp only [Prod.mk.injEq, Except.ok.injEq, and_true] at accepted
      obtain ⟨rfl, rfl⟩ := accepted
      exact ⟨⟨version, bytes, message, carries.complete, carries.valid, decoded⟩, rfl⟩
  · rintro ⟨valid, rfl⟩
    have accepted := scans.accepted valid []
    rw [List.append_nil] at accepted
    exact ⟨valid.complete, valid.valid, accepted⟩

-- The first STX that is not refused by both readers is that of a frame, and no v2 frame is found behind a v1 one.
def StartsWithFrame (dialect : Dialect M) (readers : Readers M) (buffer : List UInt8) : Prop :=
  ∃ (skipped : List UInt8) (valid : ValidFrame dialect) (rest : List UInt8),
    buffer = skipped ++ (valid.bytes ++ rest) ∧ Discarded readers skipped (valid.bytes ++ rest) ∧
      (valid.version = .v1 → ¬readers.Accepts .v2 (valid.bytes ++ rest))

theorem raw_bytes_exact (scans : Scans dialect readers) (parser later : StreamParser) (frame : MavlinkFrame M)
    (found : parser.parseNext readers = (some frame, later)) :
    CarriesItself dialect readers frame ↔ StartsWithFrame dialect readers parser.buffer := by
  rw [carriesItself_iff scans]
  constructor
  · rintro ⟨valid, rfl⟩
    obtain ⟨skipped, split, _, discarded⟩ := parseNext_some readers parser later valid.frame found
    refine ⟨skipped, valid, later.buffer, split, discarded, ?_⟩
    have taken : StreamParser.parseNext readers ⟨valid.bytes ++ later.buffer⟩ = (some valid.frame, later) := by
      rw [← found, show parser = ⟨skipped ++ (valid.bytes ++ later.buffer)⟩ from congrArg StreamParser.mk split]
      exact (parseNext_discarded readers skipped _ discarded).symm
    exact (parseNext_frame scans valid later.buffer).mp taken
  · rintro ⟨skipped, valid, rest, split, discarded, noV2⟩
    have taken := (parseNext_frame scans valid rest).mpr noV2
    rw [← parseNext_discarded readers skipped _ discarded, ← split] at taken
    have same : (some frame, later) = (some valid.frame, ⟨rest⟩) := found.symm.trans taken
    cases same
    exact ⟨valid, rfl⟩

theorem raw_bytes_exact_heartbeat :
    CarriesItself common commonReaders heartbeatV2.frame ↔
      StartsWithFrame common commonReaders (heartbeatV2.bytes ++ []) :=
  raw_bytes_exact (scanReaders_scans common) ⟨heartbeatV2.bytes ++ []⟩ ⟨[]⟩ heartbeatV2.frame
    (parseNext_v2_frame (scanReaders_scans common) heartbeatV2 [] rfl)

def corruptedHeartbeat : List UInt8 := heartbeatV2.bytes.set 20 0

theorem corrupted_bytes_forwarded :
    StreamParser.parseNext commonReaders ⟨corruptedHeartbeat ++ heartbeatV2.bytes⟩ =
      (some ⟨⟨1, 1, 0⟩, heartbeatMessage, .v2, corruptedHeartbeat ++ heartbeatV2.bytes⟩, ⟨[]⟩) ∧
    ¬CarriesItself common commonReaders
      ⟨⟨1, 1, 0⟩, heartbeatMessage, .v2, corruptedHeartbeat ++ heartbeatV2.bytes⟩ := by
  refine ⟨by decide +kernel, ?_⟩
  intro carries
  have length := carries.complete.length
  revert length
  decide +kernel

end MavRouter.Framing
