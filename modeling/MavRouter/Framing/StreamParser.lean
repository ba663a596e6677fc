import Mathlib.Tactic.SplitIfs
import MavRouter.Router
import MavRouter.Framing.Mavlink
import MavRouter.Shared.Draining
import MavRouter.Shared.Runs

set_option autoImplicit false

namespace MavRouter.Framing

open Draining

variable {M : Type}

structure MavlinkFrame (M : Type) where
  header : MavHeader
  message : M
  version : MavlinkVersion
  rawBytes : List UInt8
  deriving DecidableEq, Repr

structure StreamParser where
  buffer : List UInt8
  deriving DecidableEq, Repr

def maxBufferSize : Nat := 1024 * 1024

def StreamParser.new : StreamParser := ⟨[]⟩

def StreamParser.push (parser : StreamParser) (data : List UInt8) : StreamParser :=
  let newLen := saturatingAdd parser.buffer.length data.length
  let kept :=
    if newLen > maxBufferSize then
      let overflow := newLen - maxBufferSize
      if overflow ≤ parser.buffer.length then parser.buffer.drop overflow else []
    else parser.buffer
  ⟨kept ++ data⟩

theorem StreamParser.push_buffer (parser : StreamParser) (data : List UInt8) :
    (parser.push data).buffer =
      parser.buffer.drop (saturatingAdd parser.buffer.length data.length - maxBufferSize) ++ data := by
  simp only [StreamParser.push]
  split_ifs
  · rfl
  · rw [List.drop_eq_nil_of_le (by omega)]
  · rw [Nat.sub_eq_zero_of_le (by omega), List.drop_zero]

def memchr2 (first second : UInt8) (haystack : List UInt8) : Option Nat :=
  haystack.findIdx? (fun byte => byte == first || byte == second)

def isEof : MessageReadError → Bool
  | .io kind => kind == .unexpectedEof
  | .parse _ => false

def StreamParser.parseNext (readers : Readers M) (parser : StreamParser) : Option (MavlinkFrame M) × StreamParser :=
  if parser.buffer.isEmpty then (none, parser)
  else
    match memchr2 0xFD 0xFE parser.buffer with
    -- No STX anywhere: nothing of the buffer is worth keeping.
    | none => (none, ⟨[]⟩)
    | some idx =>
      let buffer := parser.buffer.drop idx
      match readers.readV2Msg buffer with
      | (.ok (header, message), len) => (some ⟨header, message, .v2, buffer.take len⟩, ⟨buffer.drop len⟩)
      | (.error e, _) =>
        match readers.readV1Msg buffer with
        | (.ok (header, message), len) => (some ⟨header, message, .v1, buffer.take len⟩, ⟨buffer.drop len⟩)
        | (.error eV1, _) =>
          if isEof e || isEof eV1 then (none, ⟨buffer⟩)
          else StreamParser.parseNext readers ⟨buffer.drop 1⟩
termination_by parser.buffer.length
decreasing_by
  have filled : ¬parser.buffer.isEmpty = true := by assumption
  have positive := List.length_pos_iff.mpr (by simpa using filled : parser.buffer ≠ [])
  simp only [List.length_drop]
  omega

def IsStx (byte : UInt8) : Prop := byte = 0xFD ∨ byte = 0xFE

instance (byte : UInt8) : Decidable (IsStx byte) := inferInstanceAs (Decidable (_ ∨ _))

theorem stx_isStx (version : MavlinkVersion) : IsStx version.stx := by
  cases version with
  | v1 => exact .inr rfl
  | v2 => exact .inl rfl

def Readers.Accepts (readers : Readers M) (version : MavlinkVersion) (bytes : List UInt8) : Prop :=
  ∃ found position, readers.read version bytes = (.ok found, position)

def Readers.Rejects (readers : Readers M) (version : MavlinkVersion) (bytes : List UInt8) : Prop :=
  ∃ error position, readers.read version bytes = (.error error, position) ∧ isEof error = false

@[simp] theorem parseNext_nil (readers : Readers M) : StreamParser.parseNext readers ⟨[]⟩ = (none, ⟨[]⟩) := by
  rw [StreamParser.parseNext]
  rfl

theorem parseNext_skip (readers : Readers M) (byte : UInt8) (rest : List UInt8) (noise : ¬IsStx byte) :
    StreamParser.parseNext readers ⟨byte :: rest⟩ = StreamParser.parseNext readers ⟨rest⟩ := by
  have plain : (byte == 0xFD || byte == 0xFE) = false := by
    simpa [IsStx] using noise
  have found : memchr2 0xFD 0xFE (byte :: rest) = (memchr2 0xFD 0xFE rest).map (· + 1) := by
    simp [memchr2, List.findIdx?_cons, plain]
  rw [StreamParser.parseNext]
  cases rest with
  | nil =>
    rw [found]
    simp [memchr2]
  | cons next rest =>
    rw [StreamParser.parseNext, found]
    cases memchr2 0xFD 0xFE (next :: rest) with
    | none => rfl
    | some idx => rfl

theorem parseNext_stx (readers : Readers M) (byte : UInt8) (rest : List UInt8) (stx : IsStx byte) :
    StreamParser.parseNext readers ⟨byte :: rest⟩ =
      match readers.readV2Msg (byte :: rest) with
      | (.ok (header, message), len) =>
        (some ⟨header, message, .v2, (byte :: rest).take len⟩, ⟨(byte :: rest).drop len⟩)
      | (.error e, _) =>
        match readers.readV1Msg (byte :: rest) with
        | (.ok (header, message), len) =>
          (some ⟨header, message, .v1, (byte :: rest).take len⟩, ⟨(byte :: rest).drop len⟩)
        | (.error eV1, _) =>
          if isEof e || isEof eV1 then (none, ⟨byte :: rest⟩)
          else StreamParser.parseNext readers ⟨rest⟩ := by
  have found : memchr2 0xFD 0xFE (byte :: rest) = some 0 := by
    have hit : (byte == 0xFD || byte == 0xFE) = true := by
      simpa [IsStx] using stx
    simp [memchr2, List.findIdx?_cons, hit]
  rw [StreamParser.parseNext, found]
  rfl

theorem Readers.accepts_or_fails (readers : Readers M) (version : MavlinkVersion) (bytes : List UInt8) :
    readers.Accepts version bytes ∨ ∃ error position, readers.read version bytes = (.error error, position) := by
  cases outcome : readers.read version bytes with
  | mk result position =>
    cases result with
    | ok found => exact .inl ⟨found, position, outcome⟩
    | error error => exact .inr ⟨error, position, rfl⟩

theorem Readers.rejects_iff_of_fails (readers : Readers M) (version : MavlinkVersion) (bytes : List UInt8)
    (error : MessageReadError) (position : Nat) (failed : readers.read version bytes = (.error error, position)) :
    readers.Rejects version bytes ↔ isEof error = false := by
  simp [Readers.Rejects, failed]

def StartsWithStx (bytes : List UInt8) : Prop := ∃ byte rest, bytes = byte :: rest ∧ IsStx byte

theorem Complete.startsWithStx {version : MavlinkVersion} {bytes : List UInt8} (complete : Complete version bytes)
    (rest : List UInt8) : StartsWithStx (bytes ++ rest) := by
  obtain ⟨tail, rfl⟩ := complete.cons
  exact ⟨version.stx, tail ++ rest, rfl, stx_isStx version⟩

theorem parseNext_accepts_v2 (readers : Readers M) (bytes : List UInt8) (starts : StartsWithStx bytes)
    (header : MavHeader) (message : M) (len : Nat) (found : readers.read .v2 bytes = (.ok (header, message), len)) :
    StreamParser.parseNext readers ⟨bytes⟩ =
      (some ⟨header, message, .v2, bytes.take len⟩, ⟨bytes.drop len⟩) := by
  obtain ⟨byte, rest, rfl, stx⟩ := starts
  rw [parseNext_stx readers byte rest stx]
  simp [found]

theorem parseNext_accepts_v1 (readers : Readers M) (bytes : List UInt8) (starts : StartsWithStx bytes)
    (other : ¬readers.Accepts .v2 bytes) (header : MavHeader) (message : M) (len : Nat)
    (found : readers.read .v1 bytes = (.ok (header, message), len)) :
    StreamParser.parseNext readers ⟨bytes⟩ =
      (some ⟨header, message, .v1, bytes.take len⟩, ⟨bytes.drop len⟩) := by
  obtain ⟨byte, rest, rfl, stx⟩ := starts
  rw [parseNext_stx readers byte rest stx]
  obtain ⟨error, position, failed⟩ := (readers.accepts_or_fails .v2 (byte :: rest)).resolve_left other
  simp [failed, found]

theorem parseNext_discards (readers : Readers M) (byte : UInt8) (rest : List UInt8) (stx : IsStx byte)
    (noV2 : readers.Rejects .v2 (byte :: rest)) (noV1 : readers.Rejects .v1 (byte :: rest)) :
    StreamParser.parseNext readers ⟨byte :: rest⟩ = StreamParser.parseNext readers ⟨rest⟩ := by
  obtain ⟨e, position, failed, notEof⟩ := noV2
  obtain ⟨eV1, positionV1, failedV1, notEofV1⟩ := noV1
  rw [parseNext_stx readers byte rest stx]
  simp [failed, failedV1, notEof, notEofV1]

theorem parseNext_waits (readers : Readers M) (bytes : List UInt8) (starts : StartsWithStx bytes)
    (noV2 : ¬readers.Accepts .v2 bytes) (noV1 : ¬readers.Accepts .v1 bytes)
    (waiting : ¬(readers.Rejects .v2 bytes ∧ readers.Rejects .v1 bytes)) :
    StreamParser.parseNext readers ⟨bytes⟩ = (none, ⟨bytes⟩) := by
  obtain ⟨e, position, failed⟩ := (readers.accepts_or_fails .v2 bytes).resolve_left noV2
  obtain ⟨eV1, positionV1, failedV1⟩ := (readers.accepts_or_fails .v1 bytes).resolve_left noV1
  rw [readers.rejects_iff_of_fails .v2 bytes e position failed,
    readers.rejects_iff_of_fails .v1 bytes eV1 positionV1 failedV1] at waiting
  obtain ⟨byte, rest, rfl, stx⟩ := starts
  rw [parseNext_stx readers byte rest stx]
  have eof : (isEof e || isEof eV1) = true := by
    revert waiting
    cases isEof e <;> cases isEof eV1 <;> simp
  simp [failed, failedV1, eof]

def Discarded (readers : Readers M) (skipped rest : List UInt8) : Prop :=
  ∀ passed byte left, skipped = passed ++ byte :: left → IsStx byte →
    readers.Rejects .v2 (byte :: left ++ rest) ∧ readers.Rejects .v1 (byte :: left ++ rest)

theorem discarded_nil (readers : Readers M) (rest : List UInt8) : Discarded readers [] rest := by
  intro passed byte left split
  simp at split

theorem discarded_cons (readers : Readers M) (byte : UInt8) (skipped rest : List UInt8) :
    Discarded readers (byte :: skipped) rest ↔
      (IsStx byte → readers.Rejects .v2 (byte :: skipped ++ rest) ∧ readers.Rejects .v1 (byte :: skipped ++ rest)) ∧
      Discarded readers skipped rest :=
  Runs.forall_split_cons (fun byte left => IsStx byte →
    readers.Rejects .v2 (byte :: left ++ rest) ∧ readers.Rejects .v1 (byte :: left ++ rest)) byte skipped

theorem parseNext_discarded (readers : Readers M) (skipped rest : List UInt8)
    (discarded : Discarded readers skipped rest) :
    StreamParser.parseNext readers ⟨skipped ++ rest⟩ = StreamParser.parseNext readers ⟨rest⟩ := by
  induction skipped with
  | nil => rfl
  | cons byte skipped ih =>
    obtain ⟨first, later⟩ := (discarded_cons readers byte skipped rest).mp discarded
    rw [← ih later, List.cons_append]
    by_cases stx : IsStx byte
    · obtain ⟨noV2, noV1⟩ := first stx
      exact parseNext_discards readers byte (skipped ++ rest) stx noV2 noV1
    · exact parseNext_skip readers byte (skipped ++ rest) stx

def Decides (readers : Readers M) (bytes : List UInt8) : Prop :=
  StreamParser.parseNext readers ⟨bytes⟩ = (none, ⟨bytes⟩) ∨
    ∃ version header message len, readers.read version bytes = (.ok (header, message), len) ∧
      StreamParser.parseNext readers ⟨bytes⟩ =
        (some ⟨header, message, version, bytes.take len⟩, ⟨bytes.drop len⟩)

theorem parseNext_decides (readers : Readers M) (buffer : List UInt8) :
    ∃ skipped rest, buffer = skipped ++ rest ∧ Discarded readers skipped rest ∧ Decides readers rest := by
  induction buffer with
  | nil => exact ⟨[], [], rfl, discarded_nil readers [], .inl (parseNext_nil readers)⟩
  | cons byte buffer ih =>
    obtain ⟨skipped, rest, rfl, discarded, decides⟩ := ih
    have moveOn (refused : IsStx byte → readers.Rejects .v2 (byte :: skipped ++ rest) ∧
        readers.Rejects .v1 (byte :: skipped ++ rest)) :
        ∃ before after, byte :: (skipped ++ rest) = before ++ after ∧ Discarded readers before after ∧
          Decides readers after :=
      ⟨byte :: skipped, rest, rfl, (discarded_cons readers byte skipped rest).mpr ⟨refused, discarded⟩, decides⟩
    have stay (here : Decides readers (byte :: (skipped ++ rest))) :
        ∃ before after, byte :: (skipped ++ rest) = before ++ after ∧ Discarded readers before after ∧
          Decides readers after :=
      ⟨[], byte :: (skipped ++ rest), rfl, discarded_nil readers _, here⟩
    by_cases stx : IsStx byte
    · by_cases takesV2 : readers.Accepts .v2 (byte :: (skipped ++ rest))
      · obtain ⟨⟨header, message⟩, len, found⟩ := takesV2
        exact stay (.inr ⟨.v2, header, message, len, found,
          parseNext_accepts_v2 readers _ ⟨_, _, rfl, stx⟩ _ _ _ found⟩)
      · by_cases takesV1 : readers.Accepts .v1 (byte :: (skipped ++ rest))
        · obtain ⟨⟨header, message⟩, len, found⟩ := takesV1
          exact stay (.inr ⟨.v1, header, message, len, found,
            parseNext_accepts_v1 readers _ ⟨_, _, rfl, stx⟩ takesV2 _ _ _ found⟩)
        · by_cases refused : readers.Rejects .v2 (byte :: (skipped ++ rest)) ∧
              readers.Rejects .v1 (byte :: (skipped ++ rest))
          · exact moveOn (fun _ => refused)
          · exact stay (.inl (parseNext_waits readers _ ⟨_, _, rfl, stx⟩ takesV2 takesV1 refused))
    · exact moveOn (fun isStx => absurd isStx stx)

theorem parseNext_settles (readers : Readers M) (parser later : StreamParser) (result : Option (MavlinkFrame M))
    (found : parser.parseNext readers = (result, later)) :
    ∃ skipped rest, parser.buffer = skipped ++ rest ∧ Discarded readers skipped rest ∧ Decides readers rest ∧
      StreamParser.parseNext readers ⟨rest⟩ = (result, later) := by
  obtain ⟨skipped, rest, split, discarded, decides⟩ := parseNext_decides readers parser.buffer
  refine ⟨skipped, rest, split, discarded, decides, ?_⟩
  rw [← parseNext_discarded readers skipped rest discarded, ← split]
  exact found

theorem parseNext_some (readers : Readers M) (parser later : StreamParser) (frame : MavlinkFrame M)
    (found : parser.parseNext readers = (some frame, later)) :
    ∃ skipped, parser.buffer = skipped ++ (frame.rawBytes ++ later.buffer) ∧ frame.rawBytes ≠ [] ∧
      Discarded readers skipped (frame.rawBytes ++ later.buffer) := by
  obtain ⟨skipped, rest, split, discarded, decides, settled⟩ := parseNext_settles readers parser later _ found
  cases decides with
  | inl waits =>
    rw [waits] at settled
    cases settled
  | inr taken =>
    obtain ⟨version, header, message, len, accepted, result⟩ := taken
    rw [result] at settled
    cases settled
    obtain ⟨positive, inside⟩ := readers.advances version rest _ len accepted
    simp only [List.take_append_drop]
    refine ⟨skipped, split, ?_, discarded⟩
    intro empty
    have short := congrArg List.length empty
    rw [List.length_take, List.length_nil] at short
    omega

theorem parseNext_none (readers : Readers M) (parser later : StreamParser)
    (found : parser.parseNext readers = (none, later)) : later.buffer <:+ parser.buffer := by
  obtain ⟨skipped, rest, split, discarded, decides, settled⟩ := parseNext_settles readers parser later _ found
  cases decides with
  | inl waits =>
    rw [waits] at settled
    cases settled
    exact ⟨skipped, split.symm⟩
  | inr taken =>
    obtain ⟨version, header, message, len, accepted, result⟩ := taken
    rw [result] at settled
    cases settled

def StreamParser.source (readers : Readers M) : Source StreamParser (MavlinkFrame M) UInt8 where
  content := StreamParser.buffer
  raw := MavlinkFrame.rawBytes
  next := StreamParser.parseNext readers
  takes := by
    intro parser frame later found
    obtain ⟨skipped, split, proper, _⟩ := parseNext_some readers parser later frame found
    exact ⟨proper, skipped, split.symm⟩
  keeps := parseNext_none readers

-- while let Some(frame) = parser.parse_next()
def StreamParser.drain (readers : Readers M) (parser : StreamParser) : List (MavlinkFrame M) × StreamParser :=
  (StreamParser.source readers).drain parser

theorem drain_stops (readers : Readers M) (parser later : StreamParser)
    (found : parser.parseNext readers = (none, later)) : parser.drain readers = ([], later) :=
  (StreamParser.source readers).drain_none parser later found

theorem drain_goes_on (readers : Readers M) (parser later : StreamParser) (frame : MavlinkFrame M)
    (found : parser.parseNext readers = (some frame, later)) :
    parser.drain readers = (frame :: (later.drain readers).1, (later.drain readers).2) :=
  (StreamParser.source readers).drain_some parser later frame found

end MavRouter.Framing
