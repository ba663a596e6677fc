import MavRouter.Framing.Mavlink

set_option autoImplicit false

namespace MavRouter.Framing

variable {M : Type}

-- Readers that do what is documented and nothing else.
def scan (dialect : Dialect M) (version : MavlinkVersion) : List UInt8 → ReadResult M × Nat
  | [] => (.error (.io .unexpectedEof), 0)
  | byte :: rest =>
    if byte ≠ version.stx then past 1 (scan dialect version rest)
    else if (byte :: rest).length < announcedLength version (byte :: rest) then
      (.error (.io .unexpectedEof), (byte :: rest).length)
    else
      let candidate := (byte :: rest).take (announcedLength version (byte :: rest))
      if dialect.hasValidCrc version candidate = false then
        past candidate.length (scan dialect version ((byte :: rest).drop (announcedLength version (byte :: rest))))
      else
        match dialect.decode version candidate with
        | .ok message => (.ok (frameHeader version candidate, message), candidate.length)
        | .error error => (.error (.parse error), candidate.length)
termination_by bytes => bytes.length
decreasing_by
  · simp
  · have minimum := announcedLength_minimum version (byte :: rest)
    simp only [List.length_drop, List.length_cons]
    omega

theorem scan_skipped (dialect : Dialect M) (version : MavlinkVersion) (byte : UInt8) (rest : List UInt8)
    (other : byte ≠ version.stx) : scan dialect version (byte :: rest) = past 1 (scan dialect version rest) := by
  rw [scan, if_pos other]

theorem scan_truncated (dialect : Dialect M) (version : MavlinkVersion) (bytes : List UInt8)
    (starts : bytes.head? = some version.stx) (short : bytes.length < announcedLength version bytes) :
    scan dialect version bytes = (.error (.io .unexpectedEof), bytes.length) := by
  cases bytes with
  | nil => cases starts
  | cons byte rest =>
    simp only [List.head?_cons, Option.some.injEq] at starts
    rw [scan, if_neg (by simp [starts]), if_pos short]

theorem scan_complete (dialect : Dialect M) (version : MavlinkVersion) (frame rest : List UInt8)
    (complete : Complete version frame) :
    scan dialect version (frame ++ rest) =
      if dialect.hasValidCrc version frame = false then past frame.length (scan dialect version rest)
      else match dialect.decode version frame with
        | .ok message => (.ok (frameHeader version frame, message), frame.length)
        | .error error => (.error (.parse error), frame.length) := by
  have length : announcedLength version (frame ++ rest) = frame.length := by
    have long := complete.long
    rw [announcedLength_append version frame rest (by omega), complete.length]
  obtain ⟨tail, rfl⟩ := complete.cons
  rw [List.cons_append] at length ⊢
  rw [scan, if_neg (by simp), length, if_neg (by simp), ← List.cons_append, List.take_left', List.drop_left']
  · rfl
  · rfl

theorem scan_exhausted (dialect : Dialect M) (version : MavlinkVersion) (bytes : List UInt8)
    (absent : version.stx ∉ bytes) : (scan dialect version bytes).1 = .error (.io .unexpectedEof) := by
  induction bytes with
  | nil => rw [scan]
  | cons byte rest ih =>
    simp only [List.mem_cons, not_or] at absent
    rw [scan_skipped dialect version byte rest (Ne.symm absent.1)]
    exact ih absent.2

theorem past_ok (count : Nat) (result : ReadResult M × Nat) (found : MavHeader × M) (position : Nat)
    (accepted : past count result = (.ok found, position)) :
    ∃ before, result = (.ok found, before) ∧ position = count + before := by
  cases result with
  | mk outcome before =>
    cases accepted
    exact ⟨before, rfl, rfl⟩

theorem scan_advances (dialect : Dialect M) (version : MavlinkVersion) (bytes : List UInt8) (found : MavHeader × M)
    (position : Nat) (accepted : scan dialect version bytes = (.ok found, position)) :
    0 < position ∧ position ≤ bytes.length := by
  fun_induction scan dialect version bytes generalizing position with
  | case1 => cases accepted
  | case2 byte rest other ih =>
    obtain ⟨before, result, moved⟩ := past_ok 1 _ found position accepted
    have inside := ih before result
    simp only [List.length_cons]
    omega
  | case3 => cases accepted
  | case4 byte rest stx whole candidate invalid ih =>
    obtain ⟨before, result, moved⟩ := past_ok candidate.length _ found position accepted
    have inside := ih before result
    have size : candidate.length = announcedLength version (byte :: rest) := by
      simp only [candidate, List.length_take]
      omega
    simp only [List.length_drop] at inside
    omega
  | case5 byte rest stx whole candidate valid message decoded =>
    cases accepted
    have minimum := announcedLength_minimum version (byte :: rest)
    simp only [candidate, List.length_take]
    omega
  | case6 => cases accepted

def scanReaders (dialect : Dialect M) : Readers M where
  read := scan dialect
  advances := scan_advances dialect

theorem scanReaders_scans (dialect : Dialect M) : Scans dialect (scanReaders dialect) where
  exhausted := scan_exhausted dialect
  skipped := scan_skipped dialect
  truncated version bytes starts short := by
    change (scan dialect version bytes).1 = _
    rw [scan_truncated dialect version bytes starts short]
  corrupted version frame rest complete invalid := by
    change scan dialect version (frame ++ rest) = _
    rw [scan_complete dialect version frame rest complete, if_pos invalid]
    rfl
  accepted frame rest := by
    change scan dialect frame.version (frame.bytes ++ rest) = _
    rw [scan_complete dialect frame.version frame.bytes rest frame.complete]
    simp [frame.valid, frame.decodes]
  rejected frame rest := by
    change (scan dialect frame.version (frame.bytes ++ rest)).1 = _
    rw [scan_complete dialect frame.version frame.bytes rest frame.complete]
    simp [frame.valid, frame.fails]

end MavRouter.Framing
