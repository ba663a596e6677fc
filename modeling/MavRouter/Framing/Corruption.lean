import MavRouter.Framing.Chunks

set_option autoImplicit false

namespace MavRouter.Framing

open Draining StreamParser

variable {M : Type} {dialect : Dialect M} {readers : Readers M}

def ValidFrame.contents (frame : ValidFrame dialect) : MavHeader × M :=
  (frameHeader frame.version frame.bytes, frame.message)

def MavlinkFrame.contents (frame : MavlinkFrame M) : MavHeader × M := (frame.header, frame.message)

/-- What a reader leaves behind on its way to a frame: bytes that are not its STX, and whole candidates whose checksum
is wrong. -/
inductive Passed (dialect : Dialect M) (version : MavlinkVersion) : List UInt8 → Prop where
  | nil : Passed dialect version []
  | noise {byte : UInt8} {rest : List UInt8} : byte ≠ version.stx → Passed dialect version rest →
      Passed dialect version (byte :: rest)
  | candidate {candidate rest : List UInt8} : Complete version candidate →
      dialect.hasValidCrc version candidate = false → Passed dialect version rest →
      Passed dialect version (candidate ++ rest)

theorem past_past (older newer : Nat) (result : ReadResult M × Nat) :
    past older (past newer result) = past (older + newer) result := by
  simp [past, Nat.add_assoc]

theorem read_passed (scans : Scans dialect readers) (version : MavlinkVersion) (bytes rest : List UInt8)
    (passed : Passed dialect version bytes) :
    readers.read version (bytes ++ rest) = past bytes.length (readers.read version rest) := by
  induction passed with
  | nil => simp [past]
  | noise other _ ih =>
    rw [List.cons_append, scans.skipped version _ _ other, ih, past_past, List.length_cons, Nat.add_comm]
  | candidate complete invalid _ ih =>
    rw [List.append_assoc, scans.corrupted version _ _ complete invalid, ih, past_past, List.length_append]

theorem passed_noise (version : MavlinkVersion) (bytes : List UInt8) (absent : ∀ byte ∈ bytes, byte ≠ version.stx) :
    Passed dialect version bytes := by
  induction bytes with
  | nil => exact .nil
  | cons byte rest ih =>
    exact .noise (absent byte (by simp)) (ih (fun other member => absent other (List.mem_cons_of_mem _ member)))

theorem announced_complete (version : MavlinkVersion) (bytes : List UInt8) (starts : bytes.head? = some version.stx)
    (whole : announcedLength version bytes ≤ bytes.length) :
    Complete version (bytes.take (announcedLength version bytes)) := by
  have minimum := announcedLength_minimum version bytes
  have size : (bytes.take (announcedLength version bytes)).length = announcedLength version bytes := by
    rw [List.length_take]
    omega
  constructor
  · rw [List.head?_take, if_neg (by omega)]
    exact starts
  · have known := announcedLength_append version (bytes.take (announcedLength version bytes))
      (bytes.drop (announcedLength version bytes)) (by omega)
    rw [List.take_append_drop] at known
    rw [size]
    exact known

theorem read_cases (scans : Scans dialect readers) (version : MavlinkVersion) (bytes : List UInt8)
    (accepts : readers.Accepts version bytes) :
    (∃ byte rest, bytes = byte :: rest ∧ byte ≠ version.stx) ∨
    (∃ candidate rest, bytes = candidate ++ rest ∧ Complete version candidate ∧
      dialect.hasValidCrc version candidate = false) ∨
    ∃ frame : ValidFrame dialect, ∃ rest, bytes = frame.bytes ++ rest ∧ frame.version = version := by
  obtain ⟨found, position, accepted⟩ := accepts
  cases bytes with
  | nil =>
    have outcome := scans.exhausted version [] (by simp)
    rw [accepted] at outcome
    cases outcome
  | cons byte tail =>
    by_cases other : byte ≠ version.stx
    · exact .inl ⟨byte, tail, rfl, other⟩
    have starts : (byte :: tail).head? = some version.stx := by
      simpa using other
    by_cases short : (byte :: tail).length < announcedLength version (byte :: tail)
    · have outcome := scans.truncated version (byte :: tail) starts short
      rw [accepted] at outcome
      cases outcome
    have complete := announced_complete version (byte :: tail) starts (by omega)
    have split := List.take_append_drop (announcedLength version (byte :: tail)) (byte :: tail)
    generalize (byte :: tail).take (announcedLength version (byte :: tail)) = candidate at complete split
    generalize (byte :: tail).drop (announcedLength version (byte :: tail)) = left at split
    cases valid : dialect.hasValidCrc version candidate with
    | false => exact .inr (.inl ⟨candidate, left, split.symm, complete, valid⟩)
    | true =>
      cases decoded : dialect.decode version candidate with
      | ok message => exact .inr (.inr ⟨⟨version, candidate, message, complete, valid, decoded⟩, left, split.symm, rfl⟩)
      | error error =>
        have outcome := scans.rejected ⟨version, candidate, error, complete, valid, decoded⟩ left
        change (readers.read version (candidate ++ left)).1 = _ at outcome
        rw [split, accepted] at outcome
        cases outcome

theorem read_ok (scans : Scans dialect readers) (version : MavlinkVersion) (bytes : List UInt8) (found : MavHeader × M)
    (position : Nat) (accepted : readers.read version bytes = (.ok found, position)) :
    ∃ before, ∃ frame : ValidFrame dialect, ∃ rest, bytes = before ++ (frame.bytes ++ rest) ∧
      frame.version = version ∧ Passed dialect version before ∧ found = frame.contents ∧
      position = before.length + frame.bytes.length := by
  induction size : bytes.length using Nat.strongRecOn generalizing bytes position with
  | ind count ih =>
    rcases read_cases scans version bytes ⟨found, position, accepted⟩ with
      ⟨byte, tail, rfl, other⟩ | ⟨candidate, left, rfl, complete, invalid⟩ | ⟨frame, rest, rfl, rfl⟩
    · rw [scans.skipped version byte tail other] at accepted
      obtain ⟨inner, result, moved⟩ := past_ok 1 _ found position accepted
      obtain ⟨before, frame, rest, split, same, passed, content, place⟩ :=
        ih tail.length (by simp [← size]) tail inner result rfl
      refine ⟨byte :: before, frame, rest, by rw [split, List.cons_append], same, .noise other passed, content, ?_⟩
      rw [moved, place, List.length_cons]
      omega
    · rw [scans.corrupted version candidate left complete invalid] at accepted
      obtain ⟨inner, result, moved⟩ := past_ok candidate.length _ found position accepted
      have long := complete.long
      have smaller : left.length < count := by
        rw [← size, List.length_append]
        omega
      obtain ⟨before, frame, rest, parts, same, passed, content, place⟩ :=
        ih left.length smaller left inner result rfl
      refine ⟨candidate ++ before, frame, rest, by rw [parts, List.append_assoc], same,
        .candidate complete invalid passed, content, ?_⟩
      rw [moved, place, List.length_append]
      omega
    · rw [scans.accepted frame rest] at accepted
      cases accepted
      exact ⟨[], frame, rest, rfl, rfl, .nil, rfl, by simp⟩

theorem parseNext_reads (scans : Scans dialect readers) (version : MavlinkVersion) (bytes : List UInt8)
    (found : MavHeader × M) (len : Nat) (accepted : readers.read version bytes = (.ok found, len))
    (first : version = .v1 → ¬readers.Accepts .v2 bytes) :
    ∃ frame, StreamParser.parseNext readers ⟨bytes⟩ = (some frame, ⟨bytes.drop len⟩) ∧ frame.contents = found ∧
      frame.version = version := by
  induction bytes generalizing len with
  | nil =>
    have inside := readers.advances version [] found len accepted
    rw [List.length_nil] at inside
    omega
  | cons byte rest ih =>
    by_cases stx : IsStx byte
    · cases version with
      | v1 =>
        have result := parseNext_accepts_v1 readers _ ⟨byte, rest, rfl, stx⟩ (first rfl) found.1 found.2 len accepted
        exact ⟨_, result, rfl, rfl⟩
      | v2 =>
        have result := parseNext_accepts_v2 readers _ ⟨byte, rest, rfl, stx⟩ found.1 found.2 len accepted
        exact ⟨_, result, rfl, rfl⟩
    · have plain (version : MavlinkVersion) : byte ≠ version.stx := by
        intro same
        rw [same] at stx
        exact stx (stx_isStx version)
      have moved := accepted
      rw [scans.skipped version byte rest (plain version)] at moved
      obtain ⟨before, result, place⟩ := past_ok 1 _ found len moved
      have still (isV1 : version = .v1) : ¬readers.Accepts .v2 rest := by
        rintro ⟨other, position, taken⟩
        apply first isV1
        refine ⟨other, 1 + position, ?_⟩
        rw [scans.skipped .v2 byte rest (plain .v2), taken]
        rfl
      obtain ⟨frame, parsed, content, same⟩ := ih before result still
      refine ⟨frame, ?_, content, same⟩
      rw [parseNext_skip readers byte rest stx, parsed, place, Nat.add_comm, List.drop_succ_cons]

theorem parseNext_taken (scans : Scans dialect readers) (buffer : List UInt8) (frame : MavlinkFrame M)
    (later : StreamParser) (found : StreamParser.parseNext readers ⟨buffer⟩ = (some frame, later)) :
    ∃ skipped rest len, buffer = skipped ++ rest ∧ Discarded readers skipped rest ∧
      readers.read frame.version rest = (.ok frame.contents, len) ∧
      (frame.version = .v1 → ¬readers.Accepts .v2 rest) ∧ later = ⟨rest.drop len⟩ := by
  obtain ⟨skipped, rest, split, discarded, decides, settled⟩ := parseNext_settles readers ⟨buffer⟩ later _ found
  cases decides with
  | inl waits =>
    rw [waits] at settled
    cases settled
  | inr taken =>
    obtain ⟨version, header, message, len, accepted, result⟩ := taken
    rw [result] at settled
    cases settled
    refine ⟨skipped, rest, len, split, discarded, accepted, ?_, rfl⟩
    rintro isV1 ⟨other, position, takesV2⟩
    obtain ⟨first, parsed, _, isV2⟩ := parseNext_reads scans .v2 rest other position takesV2 (by simp)
    rw [result, Prod.mk.injEq, Option.some.injEq] at parsed
    rw [← parsed.1] at isV2
    cases isV1.symm.trans isV2

-- No frame with a correct checksum starts in the first of the two parts, wherever it ends.
def NoneStarts (dialect : Dialect M) (part behind : List UInt8) : Prop :=
  ∀ version skipped range rest, part ++ behind = skipped ++ (range ++ rest) → skipped.length < part.length →
    Complete version range → dialect.hasValidCrc version range = false

theorem parseNext_behind (scans : Scans dialect readers) (part behind : List UInt8) (frame : MavlinkFrame M)
    (later : StreamParser) (clean : NoneStarts dialect part behind)
    (found : StreamParser.parseNext readers ⟨part ++ behind⟩ = (some frame, later)) :
    ∃ skipped before inner, ∃ taken : ValidFrame dialect, ∃ rest,
      skipped ++ before = part ++ inner ∧ behind = inner ++ (taken.bytes ++ rest) ∧
      Discarded readers skipped (before ++ (taken.bytes ++ rest)) ∧ Passed dialect taken.version before ∧
      (taken.version = .v1 → ¬readers.Accepts .v2 (before ++ (taken.bytes ++ rest))) ∧
      frame.contents = taken.contents ∧ later = ⟨rest⟩ := by
  obtain ⟨skipped, left, len, split, discarded, accepted, first, moved⟩ := parseNext_taken scans _ frame later found
  obtain ⟨before, taken, rest, rfl, same, passed, content, place⟩ := read_ok scans _ left _ len accepted
  rw [← List.append_assoc] at split
  have beyond : part.length ≤ (skipped ++ before).length := by
    apply Nat.le_of_not_lt
    intro inside
    have invalid := clean taken.version (skipped ++ before) taken.bytes rest split inside taken.complete
    rw [taken.valid] at invalid
    cases invalid
  obtain ⟨inner, stretch⟩ := List.prefix_of_prefix_length_le ⟨behind, split⟩ (List.prefix_append ..) beyond
  rw [← stretch, List.append_assoc] at split
  refine ⟨skipped, before, inner, taken, rest, stretch.symm, List.append_cancel_left split, discarded, by rwa [same],
    by rwa [same], content, ?_⟩
  rw [moved, place, ← List.append_assoc, ← List.length_append, List.drop_left]

theorem parseNext_silent (scans : Scans dialect readers) (part quiet : List UInt8)
    (clean : NoneStarts dialect part quiet) (silent : ∀ byte ∈ quiet, ¬IsStx byte) :
    (StreamParser.parseNext readers ⟨part ++ quiet⟩).1 = none := by
  cases found : StreamParser.parseNext readers ⟨part ++ quiet⟩ with
  | mk result later =>
    cases result with
    | none => rfl
    | some frame =>
      obtain ⟨_, _, inner, taken, rest, _, place, _⟩ := parseNext_behind scans part quiet frame later clean found
      obtain ⟨tail, shape⟩ := taken.complete.cons
      have member : taken.version.stx ∈ quiet := by
        rw [place, shape]
        simp
      exact absurd (stx_isStx taken.version) (silent _ member)

theorem starts_within (version : MavlinkVersion) (part behind skipped range rest : List UInt8)
    (split : part ++ behind = skipped ++ (range ++ rest)) (inside : skipped.length < part.length)
    (complete : Complete version range) : part[skipped.length]? = some version.stx := by
  obtain ⟨tail, rfl⟩ := complete.cons
  have first := congrArg (·[skipped.length]?) split
  simpa [List.getElem?_append_left inside] using first

theorem noneStarts_silent (part behind : List UInt8) (silent : ∀ byte ∈ part, ¬IsStx byte) :
    NoneStarts dialect part behind := by
  intro version skipped range rest split inside complete
  have member := List.mem_of_getElem? (starts_within version part behind skipped range rest split inside complete)
  exact absurd (stx_isStx version) (silent _ member)

theorem discarded_before (scans : Scans dialect readers) (part behind skipped rest : List UInt8)
    (next : ValidFrame dialect) (split : part ++ (next.bytes ++ behind) = skipped ++ rest)
    (discarded : Discarded readers skipped rest) :
    ∃ kept, part = skipped ++ kept ∧ rest = kept ++ (next.bytes ++ behind) := by
  cases List.append_eq_append_iff.mp split with
  | inr inside => exact inside
  | inl beyond =>
    obtain ⟨inner, stretch, place⟩ := beyond
    cases inner with
    | nil => exact ⟨[], by simpa using stretch.symm, by simpa using place.symm⟩
    | cons byte left =>
      obtain ⟨tail, shape⟩ := next.complete.cons
      have first : byte = next.version.stx := by
        rw [shape, List.cons_append, List.cons_append, List.cons.injEq] at place
        exact place.1.symm
      have refused := discarded part byte left stretch (by rw [first]; exact stx_isStx next.version)
      rw [← place] at refused
      have accepted := scans.accepted next behind
      have taken : ¬readers.Rejects next.version (next.bytes ++ behind) := by
        rintro ⟨error, position, failed, _⟩
        rw [failed] at accepted
        cases accepted
      cases version : next.version with
      | v1 => exact absurd refused.2 (version ▸ taken)
      | v2 => exact absurd refused.1 (version ▸ taken)

/-- From the first byte that is not discarded on, a reader passes everything up to the next frame, or up to a range at
the end of it that holds a frame of the same header and message. -/
def ReachesNext (readers : Readers M) (bad : List UInt8) (next : ValidFrame dialect) (behind : List UInt8) : Prop :=
  ∃ skipped kept inner, ∃ taken : ValidFrame dialect, bad = skipped ++ kept ∧
    Discarded readers skipped (kept ++ (next.bytes ++ behind)) ∧
    next.bytes = inner ++ taken.bytes ∧ taken.contents = next.contents ∧
    Passed dialect taken.version (kept ++ inner) ∧
    (taken.version = .v1 → ¬readers.Accepts .v2 (kept ++ (next.bytes ++ behind)))

theorem parseNext_next (scans : Scans dialect readers) (bad behind : List UInt8) (next : ValidFrame dialect)
    (clean : NoneStarts dialect bad (next.bytes ++ behind)) :
    (∃ frame, StreamParser.parseNext readers ⟨bad ++ (next.bytes ++ behind)⟩ = (some frame, ⟨behind⟩) ∧
      frame.contents = next.contents) ↔ ReachesNext readers bad next behind := by
  constructor
  · rintro ⟨frame, found, content⟩
    obtain ⟨skipped, before, inner, taken, rest, stretch, place, discarded, passed, first, same, left⟩ :=
      parseNext_behind scans bad _ frame _ clean found
    cases left
    rw [← List.append_assoc] at place
    have tail := List.append_cancel_right place
    have split : bad ++ (next.bytes ++ behind) = skipped ++ (before ++ (taken.bytes ++ behind)) := by
      rw [tail, ← List.append_assoc skipped, stretch]
      simp
    obtain ⟨kept, parts, whole⟩ := discarded_before scans bad behind skipped _ next split discarded
    have stretched : before = kept ++ inner := by
      rw [parts, List.append_assoc] at stretch
      exact List.append_cancel_left stretch
    rw [whole] at discarded first
    exact ⟨skipped, kept, inner, taken, parts, discarded, tail, same.symm.trans content, stretched ▸ passed, first⟩
  · rintro ⟨skipped, kept, inner, taken, rfl, discarded, tail, same, passed, first⟩
    have whole : kept ++ (next.bytes ++ behind) = (kept ++ inner) ++ (taken.bytes ++ behind) := by
      simp [tail]
    have accepted := read_passed scans taken.version (kept ++ inner) (taken.bytes ++ behind) passed
    rw [scans.accepted taken behind, ← whole] at accepted
    obtain ⟨frame, found, content, _⟩ := parseNext_reads scans taken.version _ _ _ accepted first
    refine ⟨frame, ?_, content.trans same⟩
    rw [List.append_assoc, parseNext_discarded readers skipped _ discarded, found, whole]
    simp [← List.append_assoc, ← List.length_append]

def withBehind (quiet : List UInt8) : List (ValidFrame dialect) → List (ValidFrame dialect × List UInt8)
  | [] => []
  | frame :: rest => (frame, bytesOf rest ++ quiet) :: withBehind quiet rest

def Returns (readers : Readers M) : List UInt8 → List (ValidFrame dialect × List UInt8) → Prop
  | buffer, [] => (StreamParser.parseNext readers ⟨buffer⟩).1 = none
  | buffer, (frame, behind) :: rest =>
    (∃ found, StreamParser.parseNext readers ⟨buffer⟩ = (some found, ⟨behind⟩) ∧ found.contents = frame.contents) ∧
      Returns readers behind rest

theorem Returns.drain {buffer : List UInt8} {expected : List (ValidFrame dialect × List UInt8)}
    (returns : Returns readers buffer expected) :
    (StreamParser.drain readers ⟨buffer⟩).1.map MavlinkFrame.contents =
      expected.map (fun entry => entry.1.contents) := by
  induction expected generalizing buffer with
  | nil =>
    cases found : StreamParser.parseNext readers ⟨buffer⟩ with
    | mk result later =>
      have nothing : (StreamParser.parseNext readers ⟨buffer⟩).1 = none := returns
      rw [found] at nothing
      cases nothing
      rw [drain_stops readers _ _ found]
      rfl
  | cons entry rest ih =>
    obtain ⟨⟨found, parsed, content⟩, further⟩ := returns
    rw [drain_goes_on readers _ _ _ parsed, List.map_cons, List.map_cons, ih further, content]

@[simp] theorem withBehind_contents (quiet : List UInt8) (frames : List (ValidFrame dialect)) :
    (withBehind quiet frames).map (fun entry => entry.1.contents) = frames.map ValidFrame.contents := by
  induction frames with
  | nil => rfl
  | cons frame rest ih => simp [withBehind, ih]

theorem returns_frames (scans : Scans dialect readers) (frames : List (ValidFrame dialect)) (quiet : List UInt8)
    (further : List (ValidFrame dialect × List UInt8)) (allV2 : ∀ frame ∈ frames, frame.version = .v2) :
    Returns readers (bytesOf frames ++ quiet) (withBehind quiet frames ++ further) ↔ Returns readers quiet further := by
  induction frames with
  | nil => rfl
  | cons frame rest ih =>
    rw [← ih (fun other member => allV2 other (List.mem_cons_of_mem _ member))]
    have found := parseNext_v2_frame scans frame (bytesOf rest ++ quiet) (allV2 frame (by simp))
    rw [← List.append_assoc, ← bytesOf_cons] at found
    constructor
    · intro returns
      exact returns.2
    · intro returns
      exact ⟨⟨frame.frame, found, rfl⟩, returns⟩

theorem returns_rest (scans : Scans dialect readers) (frames : List (ValidFrame dialect)) (quiet : List UInt8)
    (allV2 : ∀ frame ∈ frames, frame.version = .v2) (silent : ∀ byte ∈ quiet, ¬IsStx byte) :
    Returns readers (bytesOf frames ++ quiet) (withBehind quiet frames) := by
  have calls := returns_frames scans frames quiet [] allV2
  rw [List.append_nil] at calls
  exact calls.mpr (parseNext_silent scans [] quiet (noneStarts_silent [] quiet (by simp)) silent)

def Contained (readers : Readers M) (bad : List UInt8) (rest : List (ValidFrame dialect)) (quiet : List UInt8) : Prop :=
  ∀ next later, rest = next :: later → ReachesNext readers bad next (bytesOf later ++ quiet)

-- All is well where the v2 reader passes the overwritten bytes and no more, as when only the checksum is wrong.
theorem contained_passed (bad : List UInt8) (rest : List (ValidFrame dialect)) (quiet : List UInt8)
    (allV2 : ∀ frame ∈ rest, frame.version = .v2) (passed : Passed dialect .v2 bad) :
    Contained readers bad rest quiet := by
  rintro next later rfl
  have isV2 := allV2 next (by simp)
  refine ⟨[], bad, [], next, rfl, discarded_nil readers _, rfl, rfl, ?_, by simp [isV2]⟩
  rw [List.append_nil, isV2]
  exact passed

theorem returns_behind (scans : Scans dialect readers) (bad : List UInt8) (rest : List (ValidFrame dialect))
    (quiet : List UInt8) (allV2 : ∀ frame ∈ rest, frame.version = .v2)
    (clean : NoneStarts dialect bad (bytesOf rest ++ quiet)) (silent : ∀ byte ∈ quiet, ¬IsStx byte) :
    Returns readers (bad ++ (bytesOf rest ++ quiet)) (withBehind quiet rest) ↔ Contained readers bad rest quiet := by
  cases rest with
  | nil =>
    constructor
    · intro _ next later split
      cases split
    · intro _
      exact parseNext_silent scans bad quiet clean silent
  | cons next later =>
    rw [bytesOf_cons, List.append_assoc] at clean ⊢
    have calls := parseNext_next scans bad (bytesOf later ++ quiet) next clean
    have others := returns_rest scans later quiet
      (fun other member => allV2 other (List.mem_cons_of_mem _ member)) silent
    constructor
    · rintro ⟨found, _⟩ other more split
      cases split
      exact calls.mp found
    · intro reached
      exact ⟨calls.mpr (reached next later rfl), others⟩

def NoLookalikes (frames : List (ValidFrame dialect)) (quiet : List UInt8) : Prop :=
  ∀ inner (taken : ValidFrame dialect) behind, bytesOf frames ++ quiet = inner ++ (taken.bytes ++ behind) →
    ∃ older frame newer, frames = older ++ frame :: newer ∧ inner = bytesOf older ∧ taken.bytes = frame.bytes

theorem contained_of_drained (scans : Scans dialect readers) (bad : List UInt8) (rest : List (ValidFrame dialect))
    (quiet : List UInt8) (allV2 : ∀ frame ∈ rest, frame.version = .v2)
    (clean : NoneStarts dialect bad (bytesOf rest ++ quiet)) (silent : ∀ byte ∈ quiet, ¬IsStx byte)
    (genuine : NoLookalikes rest quiet)
    (drained : (StreamParser.drain readers ⟨bad ++ (bytesOf rest ++ quiet)⟩).1.map MavlinkFrame.contents =
      rest.map ValidFrame.contents) : Contained readers bad rest quiet := by
  rintro next later rfl
  cases found : StreamParser.parseNext readers ⟨bad ++ (bytesOf (next :: later) ++ quiet)⟩ with
  | mk result parser =>
    cases result with
    | none =>
      rw [drain_stops readers _ _ found] at drained
      cases drained
    | some frame =>
      obtain ⟨_, _, inner, taken, behind, _, place, _, _, _, content, left⟩ :=
        parseNext_behind scans bad _ frame parser clean found
      obtain ⟨older, same, newer, split, front, bytes⟩ := genuine inner taken behind place
      have moved : behind = bytesOf newer ++ quiet := by
        rw [split, bytesOf_append, bytesOf_cons, front, bytes] at place
        simpa using place.symm
      have newerV2 : ∀ other ∈ newer, other.version = .v2 := by
        intro other member
        apply allV2 other
        rw [split]
        exact List.mem_append_right _ (List.mem_cons_of_mem _ member)
      have others := (returns_rest scans newer quiet newerV2 silent).drain
      rw [withBehind_contents] at others
      rw [drain_goes_on readers _ _ _ found, left, moved, List.map_cons, others, List.map_cons,
        List.cons.injEq] at drained
      have many := congrArg List.length drained.2
      cases older with
      | nil =>
        rw [List.nil_append, List.cons.injEq] at split
        rw [← split.2] at moved
        rw [bytesOf_cons, List.append_assoc] at clean found
        rw [left, moved] at found
        exact (parseNext_next scans bad (bytesOf later ++ quiet) next clean).mp ⟨frame, found, drained.1⟩
      | cons earlier older =>
        rw [List.cons_append, List.cons.injEq] at split
        have fewer := congrArg List.length split.2
        simp only [List.length_map, List.length_append, List.length_cons] at many fewer
        omega

theorem zeros_silent (count : Nat) : ∀ byte ∈ List.replicate count (0 : UInt8), ¬IsStx byte := by
  intro byte member
  rw [List.eq_of_mem_replicate member]
  decide

theorem corruption_contained (scans : Scans dialect readers) (before rest : List (ValidFrame dialect))
    (bad quiet : List UInt8) (allV2 : ∀ frame ∈ before ++ rest, frame.version = .v2)
    (clean : NoneStarts dialect bad (bytesOf rest ++ quiet)) (silent : ∀ byte ∈ quiet, ¬IsStx byte) :
    let stream := bytesOf before ++ (bad ++ (bytesOf rest ++ quiet))
    let drained := ((StreamParser.new.push stream).drain readers).1.map MavlinkFrame.contents
    let others := withBehind (bad ++ (bytesOf rest ++ quiet)) before ++ withBehind quiet rest
    (Returns readers (StreamParser.new.push stream).buffer others ↔ Contained readers bad rest quiet) ∧
    (Contained readers bad rest quiet → drained = (before ++ rest).map ValidFrame.contents) ∧
    (NoLookalikes rest quiet →
      (drained = (before ++ rest).map ValidFrame.contents ↔ Contained readers bad rest quiet)) := by
  have beforeV2 : ∀ frame ∈ before, frame.version = .v2 :=
    fun frame member => allV2 frame (List.mem_append_left _ member)
  have restV2 : ∀ frame ∈ rest, frame.version = .v2 :=
    fun frame member => allV2 frame (List.mem_append_right _ member)
  intro stream drained others
  have calls : Returns readers (StreamParser.new.push stream).buffer others ↔ Contained readers bad rest quiet := by
    rw [push_new]
    exact (returns_frames scans before _ _ beforeV2).trans (returns_behind scans bad rest quiet restV2 clean silent)
  have sound (contained : Contained readers bad rest quiet) :
      drained = (before ++ rest).map ValidFrame.contents := by
    have returned := (calls.mpr contained).drain
    rwa [List.map_append, withBehind_contents, withBehind_contents, ← List.map_append] at returned
  refine ⟨calls, sound, fun genuine => ⟨fun complete => ?_, sound⟩⟩
  apply contained_of_drained scans bad rest quiet restV2 clean silent genuine
  have front := congrArg Prod.fst (drain_frames scans before beforeV2 (bad ++ (bytesOf rest ++ quiet)))
  have whole : drained = before.map ValidFrame.contents ++
      (StreamParser.drain readers ⟨bad ++ (bytesOf rest ++ quiet)⟩).1.map MavlinkFrame.contents := by
    change ((StreamParser.new.push stream).drain readers).1.map MavlinkFrame.contents = _
    rw [push_new, front, List.map_append, List.map_map]
    rfl
  rw [whole, List.map_append] at complete
  exact List.append_cancel_left complete

theorem corruption_contained_without_stx :
    let bad := heartbeatV2.bytes.set 0 0
    let stream := bytesOf [heartbeatV2] ++ (bad ++ (bytesOf [heartbeatV2] ++ List.replicate 280 0))
    ((StreamParser.new.push stream).drain commonReaders).1.map MavlinkFrame.contents =
      [heartbeatV2, heartbeatV2].map ValidFrame.contents :=
  (corruption_contained (scanReaders_scans common) [heartbeatV2] [heartbeatV2] (heartbeatV2.bytes.set 0 0)
    (List.replicate 280 0) (by simp [heartbeatV2]) (noneStarts_silent _ _ (by decide +kernel))
    (zeros_silent 280)).2.1
    (contained_passed _ _ _ (by simp [heartbeatV2]) (passed_noise .v2 _ (by decide +kernel)))

-- A heartbeat whose length byte announces as many more bytes as the frame behind it has.
def longHeartbeat : List UInt8 := heartbeatV2.bytes.set 1 30

theorem longHeartbeat_complete :
    Complete .v2 (longHeartbeat ++ heartbeatV2.bytes) ∧
      common.hasValidCrc .v2 (longHeartbeat ++ heartbeatV2.bytes) = false :=
  ⟨⟨by decide +kernel, by decide +kernel⟩, by decide +kernel⟩

theorem longHeartbeat_starts_none (behind : List UInt8) :
    NoneStarts common longHeartbeat (heartbeatV2.bytes ++ behind) := by
  intro version skipped range rest split inside complete
  have stx := starts_within version _ _ skipped range rest split inside complete
  have only : ∀ index < longHeartbeat.length, longHeartbeat[index]? ≠ some 0xFE ∧
      (longHeartbeat[index]? = some 0xFD → index = 0) := by decide +kernel
  cases version with
  | v1 => exact absurd stx (only _ inside).1
  | v2 =>
    have front : skipped = [] := List.length_eq_zero_iff.mp ((only _ inside).2 stx)
    rw [front, List.nil_append, ← List.append_assoc] at split
    obtain ⟨whole, invalid⟩ := longHeartbeat_complete
    have size : range.length = (longHeartbeat ++ heartbeatV2.bytes).length := by
      rw [complete.length, whole.length, ← announcedLength_append .v2 range rest (by have := complete.long; omega),
        ← split, announcedLength_append .v2 _ behind (by have := whole.long; omega)]
    rw [(List.append_inj split size.symm).1] at invalid
    exact invalid

theorem longHeartbeat_returns (quiet : List UInt8) (silent : ∀ byte ∈ quiet, ¬IsStx byte) :
    Returns commonReaders (longHeartbeat ++ (bytesOf [heartbeatV2, heartbeatV2] ++ quiet)) [(heartbeatV2, quiet)] := by
  have scans := scanReaders_scans common
  refine ⟨?_, parseNext_silent scans [] quiet (noneStarts_silent [] quiet (by simp)) silent⟩
  obtain ⟨whole, invalid⟩ := longHeartbeat_complete
  have passed : Passed common .v2 (longHeartbeat ++ heartbeatV2.bytes ++ []) := .candidate whole invalid .nil
  have accepted := read_passed scans .v2 _ (heartbeatV2.bytes ++ quiet) passed
  rw [List.append_nil] at accepted
  have taken : (scanReaders common).read .v2 (heartbeatV2.bytes ++ quiet) = _ := scans.accepted heartbeatV2 quiet
  rw [taken] at accepted
  obtain ⟨frame, found, content, _⟩ := parseNext_reads scans .v2 _ _ _ accepted (by simp)
  have stream : longHeartbeat ++ (bytesOf [heartbeatV2, heartbeatV2] ++ quiet) =
      (longHeartbeat ++ heartbeatV2.bytes) ++ (heartbeatV2.bytes ++ quiet) := by
    simp
  refine ⟨frame, ?_, content⟩
  rw [stream]
  refine found.trans ?_
  simp [← List.append_assoc, ← List.length_append]

theorem long_heartbeat_swallows :
    longHeartbeat.length = heartbeatV2.bytes.length ∧
    NoneStarts common longHeartbeat (bytesOf [heartbeatV2, heartbeatV2] ++ List.replicate 280 0) ∧
    ((StreamParser.new.push (longHeartbeat ++ (bytesOf [heartbeatV2, heartbeatV2] ++ List.replicate 280 0))).drain
      commonReaders).1.map MavlinkFrame.contents ≠ [heartbeatV2, heartbeatV2].map ValidFrame.contents := by
  refine ⟨List.length_set, ?_, ?_⟩
  · rw [bytesOf_cons, List.append_assoc]
    exact longHeartbeat_starts_none _
  · have drained := (longHeartbeat_returns _ (zeros_silent 280)).drain
    rw [push_new]
    intro complete
    rw [complete] at drained
    cases congrArg List.length drained

end MavRouter.Framing
