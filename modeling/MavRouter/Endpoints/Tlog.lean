import Mathlib.Data.List.TakeWhile
import MavRouter.Error
import MavRouter.Framing.Common
import MavRouter.Ingress.Core
import MavRouter.Shared.Bytes
import MavRouter.Shared.Draining
import MavRouter.Shared.Runs

set_option autoImplicit false

namespace MavRouter.Endpoints.Tlog

open Bytes Draining Framing Ingress

structure Writer (W : Type) where
  writeAll : W → List UInt8 → Except IoError Unit × W
  flush : W → Except IoError Unit × W

/-- The documented behaviour: what is written is held or in the file, in order, and a flush leaves nothing held. -/
structure Buffers {W : Type} (writer : Writer W) (file held : W → List UInt8) : Prop where
  written : ∀ w bytes later, writer.writeAll w bytes = (.ok (), later) →
    file later ++ held later = file w ++ held w ++ bytes
  flushed : ∀ w later, writer.flush w = (.ok (), later) → file later = file w ++ held w ∧ held later = []

inductive RecvError where
  | lagged (n : UInt64)
  | closed

inductive SelectOutcome where
  | cancelled
  | tick
  | recv (res : Except RecvError RoutedMessage)

structure TlogState (W : Type) where
  writer : W
  busLagged : UInt64
  ioErrors : List IoError
  returned : Option (Except RouterError Unit)

variable {W : Type}

namespace TlogState

def fails (s : TlogState W) (pathStr : String) (later : W) (e : IoError) : TlogState W :=
  { s with
    writer := later
    ioErrors := s.ioErrors ++ [e]
    returned := some (.error (.filesystem pathStr e)) }

def flush (writer : Writer W) (pathStr : String) (s : TlogState W) : TlogState W :=
  match writer.flush s.writer with
  | (.ok _, later) => { s with writer := later }
  | (.error e, later) => s.fails pathStr later e

def toBeBytes (timestampUs : UInt64) : List UInt8 := bigEndian 8 timestampUs.toNat

def log (writer : Writer W) (pathStr : String) (msg : RoutedMessage) (s : TlogState W) : TlogState W :=
  match writer.writeAll s.writer (toBeBytes msg.timestampUs) with
  | (.error e, later) => s.fails pathStr later e
  | (.ok _, between) =>
    match writer.writeAll between msg.serializedBytes with
    | (.error e, later) => s.fails pathStr later e
    | (.ok _, later) => { s with writer := later }

-- Behind the loop an error of the last flush is only reported.
def finish (writer : Writer W) (s : TlogState W) : TlogState W :=
  match writer.flush s.writer with
  | (.ok _, later) => { s with writer := later, returned := some (.ok ()) }
  | (.error e, later) => { s with writer := later, ioErrors := s.ioErrors ++ [e], returned := some (.ok ()) }

def select (writer : Writer W) (pathStr : String) (s : TlogState W) : SelectOutcome → TlogState W
  | .cancelled => s.finish writer
  | .tick => s.flush writer pathStr
  | .recv (.ok msg) => s.log writer pathStr msg
  | .recv (.error (.lagged n)) => { s with busLagged := s.busLagged + n }
  | .recv (.error .closed) => s.finish writer

def step (writer : Writer W) (pathStr : String) (s : TlogState W) (outcome : SelectOutcome) : TlogState W :=
  if s.returned.isSome then s else s.select writer pathStr outcome

end TlogState

def run (writer : Writer W) (pathStr : String) (created : W) (busLagged : UInt64) (outcomes : List SelectOutcome) :
    TlogState W :=
  outcomes.foldl (TlogState.step writer pathStr) { writer := created, busLagged, ioErrors := [], returned := none }

def SelectOutcome.exits : SelectOutcome → Bool
  | .cancelled | .recv (.error .closed) => true
  | _ => false

def SelectOutcome.message : SelectOutcome → Option RoutedMessage
  | .recv (.ok msg) => some msg
  | _ => none

def received (outcomes : List SelectOutcome) : List RoutedMessage :=
  (outcomes.takeWhile fun outcome => !outcome.exits).filterMap SelectOutcome.message

abbrev Record := UInt64 × List UInt8

def recordBytes (record : Record) : List UInt8 := TlogState.toBeBytes record.1 ++ record.2

def record (msg : RoutedMessage) : Record := (msg.timestampUs, msg.serializedBytes)

structure Logged (file held : W → List UInt8) (outcomes : List SelectOutcome) (s : TlogState W) : Prop where
  written : file s.writer ++ held s.writer = (received outcomes).flatMap fun msg => recordBytes (record msg)
  running : s.returned = none → ∀ outcome ∈ outcomes, outcome.exits = false
  ended : ∀ result, s.returned = some result →
    result = .ok () ∧ held s.writer = [] ∧ ∃ outcome ∈ outcomes, outcome.exits = true

theorem received_concat (outcomes : List SelectOutcome) (outcome : SelectOutcome)
    (running : ∀ earlier ∈ outcomes, earlier.exits = false) :
    received (outcomes ++ [outcome]) = received outcomes ++ outcome.message.toList := by
  have whole : outcomes.takeWhile (fun outcome => !outcome.exits) = outcomes :=
    List.takeWhile_eq_self_iff.mpr fun earlier member => by rw [running earlier member]; rfl
  have grown : (outcomes ++ [outcome]).takeWhile (fun outcome => !outcome.exits) =
      outcomes ++ [outcome].takeWhile fun outcome => !outcome.exits :=
    List.takeWhile_append_of_pos fun earlier member => by rw [running earlier member]; rfl
  rw [received, received, grown, whole, List.filterMap_append]
  cases outcome with
  | cancelled => rfl
  | tick => rfl
  | recv res =>
    cases res with
    | ok msg => rfl
    | error reason => cases reason <;> rfl

theorem received_ended (outcomes : List SelectOutcome) (outcome : SelectOutcome)
    (ended : ∃ earlier ∈ outcomes, earlier.exits = true) : received (outcomes ++ [outcome]) = received outcomes := by
  obtain ⟨earlier, member, exits⟩ := ended
  rw [received, received, List.takeWhile_append]
  have stopped : (outcomes.takeWhile fun outcome => !outcome.exits).length ≠ outcomes.length := by
    intro same
    have whole := (List.takeWhile_prefix (fun outcome : SelectOutcome => !outcome.exits)).eq_of_length same
    have open' := List.takeWhile_eq_self_iff.mp whole earlier member
    simp [exits] at open'
  rw [if_neg stopped]

theorem select_reports (writer : Writer W) (pathStr : String) (s : TlogState W) (outcome : SelectOutcome)
    (fine : (s.select writer pathStr outcome).ioErrors = []) : s.ioErrors = [] := by
  cases outcome with
  | cancelled =>
    simp only [TlogState.select, TlogState.finish] at fine
    split at fine <;> simp_all
  | tick =>
    simp only [TlogState.select, TlogState.flush] at fine
    split at fine <;> simp_all [TlogState.fails]
  | recv res =>
    rcases res with (_ | _) | msg
    · exact fine
    · simp only [TlogState.select, TlogState.finish] at fine
      split at fine <;> simp_all
    · simp only [TlogState.select, TlogState.log] at fine
      split at fine
      · simp [TlogState.fails] at fine
      · split at fine <;> simp_all [TlogState.fails]

section Run

variable {writer : Writer W} {file held : W → List UInt8}

theorem Logged.stays {outcomes : List SelectOutcome} {s : TlogState W} (logged : Logged file held outcomes s)
    (running : s.returned = none) (outcome : SelectOutcome) (stays : outcome.exits = false) (later : W)
    (grown : file later ++ held later = file s.writer ++ held s.writer ++
      outcome.message.toList.flatMap fun msg => recordBytes (record msg)) (busLagged : UInt64) :
    Logged file held (outcomes ++ [outcome]) { s with writer := later, busLagged } where
  written := by
    rw [received_concat outcomes outcome (logged.running running), List.flatMap_append, ← logged.written]
    exact grown
  running _ earlier member := by
    cases List.mem_append.mp member with
    | inl old => exact logged.running running earlier old
    | inr own => rw [List.mem_singleton.mp own, stays]
  ended result returned := by
    rw [running] at returned
    cases returned

variable (buffers : Buffers writer file held) (pathStr : String)

include buffers

theorem Logged.finish {outcomes : List SelectOutcome} {s : TlogState W} (logged : Logged file held outcomes s)
    (running : s.returned = none) (outcome : SelectOutcome) (exits : outcome.exits = true)
    (fine : (s.finish writer).ioErrors = []) : Logged file held (outcomes ++ [outcome]) (s.finish writer) := by
  rw [TlogState.finish] at fine ⊢
  cases flushed : writer.flush s.writer with
  | mk result later =>
    cases result with
    | error e => simp [flushed] at fine
    | ok _ =>
      obtain ⟨filed, empty⟩ := buffers.flushed s.writer later flushed
      have silent : outcome.message = none := by
        cases outcome with
        | recv res => cases res <;> first | rfl | cases exits
        | _ => rfl
      constructor
      · rw [received_concat outcomes outcome (logged.running running), silent, Option.toList_none, List.append_nil,
          ← logged.written]
        simp [filed, empty]
      · intro open'
        cases open'
      · intro result returned
        simp only [Option.some.injEq] at returned
        exact ⟨returned.symm, empty, outcome, by simp, exits⟩

theorem Logged.select {outcomes : List SelectOutcome} {s : TlogState W} (logged : Logged file held outcomes s)
    (running : s.returned = none) (outcome : SelectOutcome)
    (fine : (s.select writer pathStr outcome).ioErrors = []) :
    Logged file held (outcomes ++ [outcome]) (s.select writer pathStr outcome) := by
  cases outcome with
  | cancelled => exact logged.finish buffers running .cancelled rfl fine
  | tick =>
    simp only [TlogState.select, TlogState.flush] at fine ⊢
    cases flushed : writer.flush s.writer with
    | mk result later =>
      cases result with
      | error e => simp [flushed, TlogState.fails] at fine
      | ok _ =>
        obtain ⟨filed, empty⟩ := buffers.flushed s.writer later flushed
        exact logged.stays running .tick rfl later (by simp [filed, empty, SelectOutcome.message]) s.busLagged
  | recv res =>
    cases res with
    | ok msg =>
      simp only [TlogState.select, TlogState.log] at fine ⊢
      rcases stamped : writer.writeAll s.writer (TlogState.toBeBytes msg.timestampUs) with ⟨_ | _, between⟩
      · simp [stamped, TlogState.fails] at fine
      · rcases framed : writer.writeAll between msg.serializedBytes with ⟨_ | _, later⟩
        · simp [stamped, framed, TlogState.fails] at fine
        · simp only [framed]
          have first := buffers.written _ _ _ stamped
          have second := buffers.written _ _ _ framed
          refine logged.stays running (.recv (.ok msg)) rfl later ?_ s.busLagged
          rw [second, first]
          simp [SelectOutcome.message, recordBytes, record]
    | error reason =>
      cases reason with
      | lagged n =>
        exact logged.stays running (.recv (.error (.lagged n))) rfl s.writer (by simp [SelectOutcome.message]) _
      | closed => exact logged.finish buffers running (.recv (.error .closed)) rfl fine

theorem run_logged (created : W) (busLagged : UInt64) (fresh : file created = [] ∧ held created = [])
    (outcomes : List SelectOutcome) (fine : (run writer pathStr created busLagged outcomes).ioErrors = []) :
    Logged file held outcomes (run writer pathStr created busLagged outcomes) := by
  revert fine
  apply Runs.run_history (TlogState.step writer pathStr)
    { writer := created, busLagged, ioErrors := [], returned := none }
    (fun outcomes s => s.ioErrors = [] → Logged file held outcomes s)
  · intro _
    constructor
    · simp [fresh, received]
    · simp
    · intro result returned
      cases returned
  · intro outcomes outcome ih fine
    generalize List.foldl _ _ outcomes = s at ih fine ⊢
    cases returned : s.returned with
    | none =>
      have stepped : s.step writer pathStr outcome = s.select writer pathStr outcome := by
        simp [TlogState.step, returned]
      rw [stepped] at fine ⊢
      exact (ih (select_reports writer pathStr s outcome fine)).select buffers pathStr returned outcome fine
    | some result =>
      have stepped : s.step writer pathStr outcome = s := by
        simp [TlogState.step, returned]
      rw [stepped] at fine ⊢
      have logged := ih fine
      obtain ⟨_, _, earlier, member, exits⟩ := logged.ended result returned
      constructor
      · rw [received_ended outcomes outcome ⟨earlier, member, exits⟩]
        exact logged.written
      · intro open'
        rw [returned] at open'
        cases open'
      · intro result' returned'
        obtain ⟨ok, empty, _⟩ := logged.ended result' returned'
        exact ⟨ok, empty, earlier, List.mem_append_left _ member, exits⟩

end Run

def versionOf (stx : UInt8) : Option MavlinkVersion :=
  if stx = MavlinkVersion.v1.stx then some .v1 else if stx = MavlinkVersion.v2.stx then some .v2 else none

def fromBeBytes (bytes : List UInt8) : UInt64 := (ofBigEndian bytes).toUInt64

def takeRecord (bytes : List UInt8) : Option Record × List UInt8 :=
  let frame := bytes.drop 8
  match frame.head?.bind versionOf with
  | none => (none, bytes)
  | some version =>
    let length := announcedLength version frame
    if frame.length < length then (none, bytes)
    else (some (fromBeBytes (bytes.take 8), frame.take length), frame.drop length)

theorem fromBeBytes_toBeBytes (timestampUs : UInt64) : fromBeBytes (TlogState.toBeBytes timestampUs) = timestampUs := by
  rw [fromBeBytes, TlogState.toBeBytes, ofBigEndian_bigEndian 8 timestampUs.toNat timestampUs.toNat_lt]
  exact UInt64.ofNat_toNat

theorem toBeBytes_fromBeBytes (bytes : List UInt8) (length : bytes.length = 8) :
    TlogState.toBeBytes (fromBeBytes bytes) = bytes := by
  have small : ofBigEndian bytes < 256 ^ 8 := length ▸ ofBigEndian_lt bytes
  have same : (fromBeBytes bytes).toNat = ofBigEndian bytes := Nat.mod_eq_of_lt small
  rw [TlogState.toBeBytes, same, ← length, bigEndian_ofBigEndian]

theorem takeRecord_some (bytes : List UInt8) (found : Record) (later : List UInt8)
    (taken : takeRecord bytes = (some found, later)) : recordBytes found ++ later = bytes := by
  simp only [takeRecord] at taken
  split at taken
  · cases taken
  · next version known =>
    split_ifs at taken with short
    · cases taken
    · have minimum := announcedLength_minimum version (bytes.drop 8)
      have long : (bytes.take 8).length = 8 := by
        rw [List.length_drop] at short
        rw [List.length_take]
        omega
      cases taken
      rw [recordBytes, toBeBytes_fromBeBytes _ long, List.append_assoc, List.take_append_drop, List.take_append_drop]

theorem takeRecord_none (bytes later : List UInt8) (taken : takeRecord bytes = (none, later)) : later = bytes := by
  simp only [takeRecord] at taken
  split at taken
  · cases taken
    rfl
  · split_ifs at taken with short
    · cases taken
      rfl
    · cases taken

def tlogReader : Source (List UInt8) Record UInt8 where
  content bytes := bytes
  raw := recordBytes
  next := takeRecord
  takes bytes found later taken := by
    have whole := takeRecord_some bytes found later taken
    refine ⟨?_, whole ▸ List.suffix_rfl⟩
    intro empty
    have counted := congrArg List.length empty
    rw [recordBytes, List.length_append, TlogState.toBeBytes, length_bigEndian] at counted
    simp at counted
  keeps bytes later taken := takeRecord_none bytes later taken ▸ List.suffix_rfl

theorem takeRecord_frame (timestampUs : UInt64) (version : MavlinkVersion) (frame rest : List UInt8)
    (complete : Complete version frame) :
    takeRecord (recordBytes (timestampUs, frame) ++ rest) = (some (timestampUs, frame), rest) := by
  have stamp : (TlogState.toBeBytes timestampUs).length = 8 := length_bigEndian 8 _
  have front : (recordBytes (timestampUs, frame) ++ rest).take 8 = TlogState.toBeBytes timestampUs := by
    rw [recordBytes, List.append_assoc, List.take_left' stamp]
  have behind : (recordBytes (timestampUs, frame) ++ rest).drop 8 = frame ++ rest := by
    rw [recordBytes, List.append_assoc, List.drop_left' stamp]
  have known : (frame ++ rest).head?.bind versionOf = some version := by
    obtain ⟨tail, rfl⟩ := complete.cons
    cases version <;> rfl
  have announced : announcedLength version (frame ++ rest) = frame.length := by
    rw [announcedLength_append version frame rest (by have := complete.long; omega), complete.length]
  have whole : ¬(frame ++ rest).length < frame.length := by
    rw [List.length_append]
    omega
  simp only [takeRecord, front, behind, known, announced, if_neg whole, fromBeBytes_toBeBytes, List.take_left,
    List.drop_left]

theorem readLog_records (records : List Record)
    (frames : ∀ record ∈ records, ∃ version, Complete version record.2) :
    tlogReader.drain (records.flatMap recordBytes) = (records, []) := by
  have delivers : tlogReader.Delivers (records.flatMap recordBytes) records := by
    apply tlogReader.delivers_all records
    · rintro ⟨timestampUs, frame⟩ member bytes rest content
      obtain ⟨version, complete⟩ := frames _ member
      refine ⟨rest, ?_, rfl⟩
      rw [← takeRecord_frame timestampUs version frame rest complete]
      exact congrArg takeRecord content
    · rfl
  obtain ⟨items, left⟩ := delivers.drain
  exact Prod.ext items left

theorem tlog_complete {writer : Writer W} {file held : W → List UInt8} (buffers : Buffers writer file held)
    (pathStr : String) (created : W) (fresh : file created = [] ∧ held created = []) (busLagged : UInt64)
    (outcomes : List SelectOutcome) (exited : ∃ outcome ∈ outcomes, outcome.exits = true)
    (fine : (run writer pathStr created busLagged outcomes).ioErrors = []) :
    let ended := run writer pathStr created busLagged outcomes
    let records := (received outcomes).map record
    ended.returned = some (.ok ()) ∧ file ended.writer = records.flatMap recordBytes ∧
      ((∀ msg ∈ received outcomes, ∃ version, Complete version msg.serializedBytes) →
        tlogReader.drain (file ended.writer) = (records, [])) := by
  intro ended records
  have logged : Logged file held outcomes ended := run_logged buffers pathStr created busLagged fresh outcomes fine
  obtain ⟨outcome, member, exits⟩ := exited
  have written := logged.written
  cases returned : ended.returned with
  | none =>
    have running := logged.running returned outcome member
    rw [exits] at running
    cases running
  | some result =>
    obtain ⟨rfl, empty, _⟩ := logged.ended result returned
    have content : file ended.writer = records.flatMap recordBytes := by
      rw [empty, List.append_nil] at written
      rw [written, List.flatMap_map]
    refine ⟨rfl, content, ?_⟩
    intro frames
    rw [content]
    apply readLog_records
    intro record' inside
    obtain ⟨msg, got, rfl⟩ := List.mem_map.mp inside
    exact frames msg got

/-- Buffered bytes go to the file when there is no room for more; what is as large as the buffer goes there directly. -/
structure BufWriter where
  inner : List UInt8
  buf : List UInt8

def bufCapacity : Nat := 8192

def BufWriter.writeAll (w : BufWriter) (bytes : List UInt8) : BufWriter :=
  let w := if bufCapacity < w.buf.length + bytes.length then { inner := w.inner ++ w.buf, buf := [] } else w
  if bufCapacity ≤ bytes.length then { w with inner := w.inner ++ bytes } else { w with buf := w.buf ++ bytes }

def BufWriter.flush (w : BufWriter) : BufWriter := { inner := w.inner ++ w.buf, buf := [] }

def bufWriter : Writer BufWriter where
  writeAll w bytes := (.ok (), w.writeAll bytes)
  flush w := (.ok (), w.flush)

theorem bufWriter_buffers : Buffers bufWriter BufWriter.inner BufWriter.buf where
  written w bytes later done := by
    have same : w.writeAll bytes = later := congrArg Prod.snd done
    rw [← same, BufWriter.writeAll]
    by_cases large : bufCapacity ≤ bytes.length
    · by_cases empty : w.buf = []
      · split_ifs <;> simp [empty]
      · have full : bufCapacity < w.buf.length + bytes.length := by
          have positive := List.length_pos_iff.mpr empty
          omega
        simp [if_pos full, if_pos large]
    · simp only [if_neg large]
      split_ifs <;> simp
  flushed w later done := by
    have same : w.flush = later := congrArg Prod.snd done
    rw [← same]
    exact ⟨rfl, rfl⟩

def heartbeatAt (timestampUs : UInt64) (frame : ValidFrame common) : RoutedMessage where
  sourceId := ⟨0⟩
  header := frameHeader frame.version frame.bytes
  messageId := 0
  version := frame.version
  timestampUs := timestampUs
  serializedBytes := frame.bytes
  target := ⟨0, 0⟩

def twoHeartbeats : List SelectOutcome :=
  [.recv (.ok (heartbeatAt 5 heartbeatV1)), .recv (.error (.lagged 3)), .tick, .recv (.ok (heartbeatAt 7 heartbeatV2)),
    .cancelled]

theorem tlog_complete_heartbeats :
    tlogReader.drain (run bufWriter "flight_0.tlog" ⟨[], []⟩ 0 twoHeartbeats).writer.inner =
      ([(5, heartbeatV1.bytes), (7, heartbeatV2.bytes)], []) := by
  have exited : ∃ outcome ∈ twoHeartbeats, outcome.exits = true := ⟨.cancelled, by simp [twoHeartbeats], rfl⟩
  have fine : (run bufWriter "flight_0.tlog" ⟨[], []⟩ 0 twoHeartbeats).ioErrors = [] := rfl
  apply (tlog_complete bufWriter_buffers "flight_0.tlog" ⟨[], []⟩ ⟨rfl, rfl⟩ 0 twoHeartbeats exited fine).2.2
  intro msg member
  have either : msg = heartbeatAt 5 heartbeatV1 ∨ msg = heartbeatAt 7 heartbeatV2 := by
    have listed : received twoHeartbeats = [heartbeatAt 5 heartbeatV1, heartbeatAt 7 heartbeatV2] := rfl
    simpa [listed] using member
  cases either with
  | inl first => exact ⟨.v1, first ▸ heartbeatV1.complete⟩
  | inr second => exact ⟨.v2, second ▸ heartbeatV2.complete⟩

end MavRouter.Endpoints.Tlog
