import Mathlib.Init

set_option autoImplicit false

namespace MavRouter.Framing

inductive MavlinkVersion where
  | v1
  | v2
  deriving DecidableEq, Repr

def MavlinkVersion.stx : MavlinkVersion → UInt8
  | .v1 => 0xFE
  | .v2 => 0xFD

structure MavHeader where
  systemId : UInt8
  componentId : UInt8
  sequence : UInt8
  deriving DecidableEq, Repr

inductive ErrorKind where
  | unexpectedEof
  | other
  deriving DecidableEq, Repr

inductive ParserError where
  | invalidFlag
  | invalidEnum
  | unknownMessage (id : Nat)
  deriving DecidableEq, Repr

inductive MessageReadError where
  | io (kind : ErrorKind)
  | parse (error : ParserError)
  deriving DecidableEq, Repr

def announcedLength : MavlinkVersion → List UInt8 → Nat
  | .v1, bytes => (bytes.getD 1 0).toNat + 8
  | .v2, bytes => (bytes.getD 1 0).toNat + 12 + if bytes.getD 2 0 &&& 1 = 1 then 13 else 0

def frameHeader : MavlinkVersion → List UInt8 → MavHeader
  | .v1, bytes => ⟨bytes.getD 3 0, bytes.getD 4 0, bytes.getD 2 0⟩
  | .v2, bytes => ⟨bytes.getD 5 0, bytes.getD 6 0, bytes.getD 4 0⟩

def messageId : MavlinkVersion → List UInt8 → Nat
  | .v1, bytes => (bytes.getD 5 0).toNat
  | .v2, bytes => (bytes.getD 7 0).toNat + 256 * (bytes.getD 8 0).toNat + 65536 * (bytes.getD 9 0).toNat

def payload : MavlinkVersion → List UInt8 → List UInt8
  | .v1, bytes => (bytes.drop 6).take (bytes.getD 1 0).toNat
  | .v2, bytes => (bytes.drop 10).take (bytes.getD 1 0).toNat

structure Complete (version : MavlinkVersion) (bytes : List UInt8) : Prop where
  starts : bytes.head? = some version.stx
  length : bytes.length = announcedLength version bytes

theorem announcedLength_minimum (version : MavlinkVersion) (bytes : List UInt8) :
    8 ≤ announcedLength version bytes := by
  cases version with
  | v1 => simp [announcedLength]
  | v2 =>
    simp only [announcedLength]
    omega

theorem announcedLength_append (version : MavlinkVersion) (bytes rest : List UInt8) (known : 3 ≤ bytes.length) :
    announcedLength version (bytes ++ rest) = announcedLength version bytes := by
  have second : (bytes ++ rest).getD 1 0 = bytes.getD 1 0 := by
    simp [List.getD_eq_getElem?_getD, List.getElem?_append_left (show 1 < bytes.length by omega)]
  have third : (bytes ++ rest).getD 2 0 = bytes.getD 2 0 := by
    simp [List.getD_eq_getElem?_getD, List.getElem?_append_left (show 2 < bytes.length by omega)]
  cases version <;> simp only [announcedLength, second, third]

theorem Complete.cons {version : MavlinkVersion} {bytes : List UInt8} (complete : Complete version bytes) :
    ∃ tail, bytes = version.stx :: tail := by
  cases bytes with
  | nil => cases complete.starts
  | cons byte tail =>
    have starts := complete.starts
    simp only [List.head?_cons, Option.some.injEq] at starts
    exact ⟨tail, by rw [starts]⟩

theorem Complete.long {version : MavlinkVersion} {bytes : List UInt8} (complete : Complete version bytes) :
    8 ≤ bytes.length := by
  rw [complete.length]
  exact announcedLength_minimum version bytes

theorem Complete.cut {version : MavlinkVersion} {pending missing : List UInt8}
    (complete : Complete version (pending ++ missing)) (lacking : missing ≠ []) :
    pending.length < announcedLength version pending := by
  have short : pending.length < (pending ++ missing).length := by
    have positive := List.length_pos_iff.mpr lacking
    simp only [List.length_append]
    omega
  by_cases known : 3 ≤ pending.length
  · rwa [complete.length, announcedLength_append version pending missing known] at short
  · have minimum := announcedLength_minimum version pending
    omega

structure Dialect (M : Type) where
  hasValidCrc : MavlinkVersion → List UInt8 → Bool
  parse : MavlinkVersion → Nat → List UInt8 → Except ParserError M

variable {M : Type}

def Dialect.decode (dialect : Dialect M) (version : MavlinkVersion) (bytes : List UInt8) : Except ParserError M :=
  dialect.parse version (messageId version bytes) (payload version bytes)

structure ValidFrame (dialect : Dialect M) where
  version : MavlinkVersion
  bytes : List UInt8
  message : M
  complete : Complete version bytes
  valid : dialect.hasValidCrc version bytes = true
  decodes : dialect.decode version bytes = .ok message

/-- A complete frame with a correct checksum whose payload the dialect does not know. -/
structure RejectedFrame (dialect : Dialect M) where
  version : MavlinkVersion
  bytes : List UInt8
  error : ParserError
  complete : Complete version bytes
  valid : dialect.hasValidCrc version bytes = true
  fails : dialect.decode version bytes = .error error

abbrev ReadResult (M : Type) := Except MessageReadError (MavHeader × M)

/-- The two readers of the crate, from the cursor to the end of what it reads: the result and how far it moves. -/
structure Readers (M : Type) where
  read : MavlinkVersion → List UInt8 → ReadResult M × Nat
  advances : ∀ version bytes found position, read version bytes = (.ok found, position) →
    0 < position ∧ position ≤ bytes.length

abbrev Readers.readV2Msg (readers : Readers M) : List UInt8 → ReadResult M × Nat := readers.read .v2

abbrev Readers.readV1Msg (readers : Readers M) : List UInt8 → ReadResult M × Nat := readers.read .v1

def past (count : Nat) (result : ReadResult M × Nat) : ReadResult M × Nat :=
  (result.1, count + result.2)

/-- The documented behaviour of the readers: scan to the next STX, take the announced length, resume after a
candidate whose checksum is wrong. -/
structure Scans (dialect : Dialect M) (readers : Readers M) : Prop where
  exhausted : ∀ version bytes, version.stx ∉ bytes →
    (readers.read version bytes).1 = .error (.io .unexpectedEof)
  skipped : ∀ version byte rest, byte ≠ version.stx →
    readers.read version (byte :: rest) = past 1 (readers.read version rest)
  truncated : ∀ version bytes, bytes.head? = some version.stx → bytes.length < announcedLength version bytes →
    (readers.read version bytes).1 = .error (.io .unexpectedEof)
  corrupted : ∀ version frame rest, Complete version frame → dialect.hasValidCrc version frame = false →
    readers.read version (frame ++ rest) = past frame.length (readers.read version rest)
  accepted : ∀ (frame : ValidFrame dialect) rest,
    readers.read frame.version (frame.bytes ++ rest) =
      (.ok (frameHeader frame.version frame.bytes, frame.message), frame.bytes.length)
  rejected : ∀ (frame : RejectedFrame dialect) rest,
    (readers.read frame.version (frame.bytes ++ rest)).1 = .error (.parse frame.error)

end MavRouter.Framing
