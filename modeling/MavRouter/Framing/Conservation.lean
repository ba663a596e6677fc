import MavRouter.Framing.Chunks

set_option autoImplicit false

namespace MavRouter.Framing

open Draining

variable {M : Type}

inductive ParserCall where
  | push (data : List UInt8)
  | parseNext

def ParserCall.data : ParserCall → List UInt8
  | .push data => data
  | .parseNext => []

def pushed (calls : List ParserCall) : List UInt8 := calls.flatMap ParserCall.data

-- The size of the buffer that run_stream_loop reads into.
def readBufferSize : Nat := 4096

namespace StreamParser

def turn (readers : Readers M) (parser : StreamParser) :
    (Option (MavlinkFrame M) × StreamParser) ⊕ StreamParser :=
  if parser.buffer.isEmpty then .inl (none, parser)
  else
    match memchr2 0xFD 0xFE parser.buffer with
    | none => .inl (none, ⟨[]⟩)
    | some idx =>
      let buffer := parser.buffer.drop idx
      match readers.readV2Msg buffer with
      | (.ok (header, message), len) => .inl (some ⟨header, message, .v2, buffer.take len⟩, ⟨buffer.drop len⟩)
      | (.error e, _) =>
        match readers.readV1Msg buffer with
        | (.ok (header, message), len) => .inl (some ⟨header, message, .v1, buffer.take len⟩, ⟨buffer.drop len⟩)
        | (.error eV1, _) =>
          if isEof e || isEof eV1 then .inl (none, ⟨buffer⟩)
          else .inr ⟨buffer.drop 1⟩

def turns (readers : Readers M) (parser : StreamParser) : Nat → Option (Option (MavlinkFrame M) × StreamParser)
  | 0 => none
  | count + 1 =>
    match parser.turn readers with
    | .inl result => some result
    | .inr later => later.turns readers count

theorem parseNext_turn (readers : Readers M) (parser : StreamParser) :
    parser.parseNext readers =
      match parser.turn readers with
      | .inl result => result
      | .inr later => later.parseNext readers := by
  rw [StreamParser.parseNext, turn]
  split_ifs with empty
  · rfl
  · cases memchr2 0xFD 0xFE parser.buffer with
    | none => rfl
    | some idx =>
      dsimp only
      rcases readers.readV2Msg (parser.buffer.drop idx) with ⟨_ | _, _⟩
      · rcases readers.readV1Msg (parser.buffer.drop idx) with ⟨_ | _, _⟩
        · dsimp only
          split_ifs <;> rfl
        · rfl
      · rfl

theorem turn_shrinks (readers : Readers M) (parser later : StreamParser) (again : parser.turn readers = .inr later) :
    later.buffer.length < parser.buffer.length := by
  have filled : parser.buffer ≠ [] := by
    intro empty
    rw [turn, if_pos (by simp [empty])] at again
    cases again
  have positive := List.length_pos_iff.mpr filled
  have dropped (idx : Nat) : ((parser.buffer.drop idx).drop 1).length < parser.buffer.length := by
    simp only [List.length_drop]
    omega
  rw [turn, if_neg (by simpa using filled)] at again
  cases found : memchr2 0xFD 0xFE parser.buffer with
  | none =>
    rw [found] at again
    cases again
  | some idx =>
    rw [found] at again
    dsimp only at again
    rcases takesV2 : readers.readV2Msg (parser.buffer.drop idx) with ⟨_ | _, _⟩
    · rw [takesV2] at again
      rcases takesV1 : readers.readV1Msg (parser.buffer.drop idx) with ⟨_ | _, _⟩
      · rw [takesV1] at again
        dsimp only at again
        split_ifs at again
        cases again
        exact dropped idx
      · rw [takesV1] at again
        cases again
    · rw [takesV2] at again
      cases again

theorem turns_enough (readers : Readers M) (count : Nat) (parser : StreamParser)
    (enough : parser.buffer.length < count) : parser.turns readers count = some (parser.parseNext readers) := by
  induction count generalizing parser with
  | zero => omega
  | succ count ih =>
    rw [turns, parseNext_turn]
    cases outcome : parser.turn readers with
    | inl result => rfl
    | inr later =>
      have shorter := turn_shrinks readers parser later outcome
      exact ih later (by omega)

def call (readers : Readers M) (state : List (MavlinkFrame M) × StreamParser) :
    ParserCall → List (MavlinkFrame M) × StreamParser
  | .push data => (state.1, state.2.push data)
  | .parseNext =>
    let (frame, later) := state.2.parseNext readers
    (state.1 ++ frame.toList, later)

theorem push_bounded (parser : StreamParser) (data : List UInt8) (bounded : parser.buffer.length ≤ maxBufferSize)
    (read : data.length ≤ readBufferSize) : (parser.push data).buffer.length ≤ maxBufferSize := by
  have chunk : data.length ≤ maxBufferSize := Nat.le_trans read (by decide)
  have exact : saturatingAdd parser.buffer.length data.length = parser.buffer.length + data.length := by
    simp only [saturatingAdd, usizeMax, maxBufferSize] at bounded chunk ⊢
    omega
  rw [push_buffer, List.length_append, List.length_drop, exact]
  omega

theorem parseNext_bounded (readers : Readers M) (parser : StreamParser) :
    (parser.parseNext readers).2.buffer.length ≤ parser.buffer.length := by
  have carved := (StreamParser.source readers).carved_next (.rest [] parser.buffer)
  exact carved.suffix.length_le

end StreamParser

structure Conserved (calls : List ParserCall) (state : List (MavlinkFrame M) × StreamParser) : Prop where
  carved : Carved (pushed calls) (state.1.map MavlinkFrame.rawBytes) state.2.buffer
  proper : ∀ frame ∈ state.1, frame.rawBytes ≠ []

theorem pushed_concat (calls : List ParserCall) (call : ParserCall) :
    pushed (calls ++ [call]) = pushed calls ++ call.data := by
  simp [pushed]

theorem Conserved.call (readers : Readers M) {calls : List ParserCall} {state : List (MavlinkFrame M) × StreamParser}
    (conserved : Conserved calls state) (call : ParserCall) :
    Conserved (calls ++ [call]) (StreamParser.call readers state call) := by
  cases call with
  | push data =>
    refine ⟨?_, conserved.proper⟩
    rw [pushed_concat, StreamParser.call, StreamParser.push_buffer]
    exact (conserved.carved.shrink (List.drop_suffix _ _)).extend data
  | parseNext =>
    have carved := (StreamParser.source readers).carved_next conserved.carved
    constructor
    · rw [pushed_concat, ParserCall.data, List.append_nil, StreamParser.call, List.map_append]
      exact carved
    · intro frame member
      cases List.mem_append.mp member with
      | inl earlier => exact conserved.proper frame earlier
      | inr last =>
        have found : state.2.parseNext readers = (some frame, (state.2.parseNext readers).2) :=
          Prod.ext (Option.mem_toList.mp last) rfl
        exact ((StreamParser.source readers).takes _ _ _ found).1

theorem calls_conserved (readers : Readers M) (calls : List ParserCall) :
    Conserved calls (calls.foldl (StreamParser.call readers) ([], StreamParser.new)) := by
  apply Runs.run_history (StreamParser.call readers) ([], StreamParser.new) Conserved
  · exact ⟨.rest [] [], by simp⟩
  · intro calls call conserved
    exact conserved.call readers call

theorem calls_bounded (readers : Readers M) (calls : List ParserCall)
    (read : ∀ data, .push data ∈ calls → data.length ≤ readBufferSize) :
    (calls.foldl (StreamParser.call readers) ([], StreamParser.new)).2.buffer.length ≤ maxBufferSize := by
  revert read
  apply Runs.run_history (StreamParser.call readers) ([], StreamParser.new)
    (fun calls state => (∀ data, .push data ∈ calls → data.length ≤ readBufferSize) →
      state.2.buffer.length ≤ maxBufferSize)
  · intro _
    exact Nat.zero_le _
  · intro calls call ih read
    have bounded := ih (fun data member => read data (List.mem_append_left _ member))
    cases call with
    | push data => exact StreamParser.push_bounded _ data bounded (read data (by simp))
    | parseNext => exact Nat.le_trans (StreamParser.parseNext_bounded readers _) bounded

theorem stream_conserved (readers : Readers M) (calls : List ParserCall)
    (read : ∀ data, .push data ∈ calls → data.length ≤ readBufferSize) :
    let state := calls.foldl (StreamParser.call readers) ([], StreamParser.new)
    state.2.turns readers (maxBufferSize + 1) = some (state.2.parseNext readers) ∧
    state.2.buffer.length ≤ maxBufferSize ∧ state.2.buffer <:+ pushed calls ∧
    Carved (pushed calls) (state.1.map MavlinkFrame.rawBytes) state.2.buffer ∧
    ∀ frame ∈ state.1, frame.rawBytes ≠ [] := by
  intro state
  have conserved : Conserved calls state := calls_conserved readers calls
  have bounded : state.2.buffer.length ≤ maxBufferSize := calls_bounded readers calls read
  exact ⟨StreamParser.turns_enough readers _ state.2 (Nat.lt_succ_of_le bounded), bounded, conserved.carved.suffix,
    conserved.carved, conserved.proper⟩

def noiseAndHeartbeat : List ParserCall := [.push [0, 1], .push heartbeatV2.bytes, .parseNext]

theorem stream_conserved_heartbeat : Carved ([0, 1] ++ heartbeatV2.bytes) [heartbeatV2.bytes] [] := by
  have read : ∀ data, .push data ∈ noiseAndHeartbeat → data.length ≤ readBufferSize := by
    intro data member
    simp only [noiseAndHeartbeat, List.mem_cons, ParserCall.push.injEq, reduceCtorEq, List.not_mem_nil,
      or_false] at member
    cases member with
    | inl noise => subst noise; decide
    | inr heartbeat => subst heartbeat; decide +kernel
  have conserved := stream_conserved commonReaders noiseAndHeartbeat read
  have returned : noiseAndHeartbeat.foldl (StreamParser.call commonReaders) ([], StreamParser.new) =
      ([heartbeatV2.frame], ⟨[]⟩) := by decide +kernel
  rw [returned] at conserved
  exact conserved.2.2.2.1

end MavRouter.Framing
