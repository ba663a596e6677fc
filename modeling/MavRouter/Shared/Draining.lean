import Mathlib.Init

set_option autoImplicit false

namespace Draining

/-- A buffer that gives off one item after another, each with its own non-empty part of the content. -/
structure Source (S F B : Type) where
  content : S → List B
  raw : F → List B
  next : S → Option F × S
  takes : ∀ s item later, next s = (some item, later) → raw item ≠ [] ∧ raw item ++ content later <:+ content s
  keeps : ∀ s later, next s = (none, later) → content later <:+ content s

variable {S F B : Type}

theorem Source.shrinks (source : Source S F B) (s : S) (item : F) (later : S)
    (found : source.next s = (some item, later)) : (source.content later).length < (source.content s).length := by
  obtain ⟨proper, inside⟩ := source.takes s item later found
  have positive := List.length_pos_iff.mpr proper
  have bounded := inside.length_le
  rw [List.length_append] at bounded
  omega

def Source.drain (source : Source S F B) (s : S) : List F × S :=
  match found : source.next s with
  | (none, later) => ([], later)
  | (some item, later) =>
    have := source.shrinks s item later found
    let rest := source.drain later
    (item :: rest.1, rest.2)
termination_by (source.content s).length

theorem Source.drain_none (source : Source S F B) (s later : S) (found : source.next s = (none, later)) :
    source.drain s = ([], later) := by
  rw [Source.drain]
  split
  · next other same => simp_all
  · next item other same => simp_all

theorem Source.drain_some (source : Source S F B) (s later : S) (item : F)
    (found : source.next s = (some item, later)) :
    source.drain s = (item :: (source.drain later).1, (source.drain later).2) := by
  rw [Source.drain]
  split
  · next other same => simp_all
  · next item other same => simp_all

theorem Source.drain_volume (source : Source S F B) (s : S) :
    ((source.drain s).1.flatMap source.raw).length + (source.content (source.drain s).2).length ≤
      (source.content s).length := by
  cases found : source.next s with
  | mk item later =>
    cases item with
    | none =>
      have bounded := (source.keeps s later found).length_le
      simpa [source.drain_none s later found] using bounded
    | some item =>
      have inside := (source.takes s item later found).2.length_le
      have shorter := source.shrinks s item later found
      have ih := source.drain_volume later
      simp only [source.drain_some s later item found, List.flatMap_cons, List.length_append] at inside ⊢
      omega
termination_by (source.content s).length

-- One item a call, each leaving exactly what belongs to the items after it, and nothing after the last.
def Source.Delivers (source : Source S F B) : S → List F → Prop
  | s, [] => ∃ later, source.next s = (none, later) ∧ source.content later = []
  | s, item :: rest => ∃ later, source.next s = (some item, later) ∧
      source.content later = rest.flatMap source.raw ∧ source.Delivers later rest

theorem Source.Delivers.drain {source : Source S F B} {s : S} {items : List F} (delivers : source.Delivers s items) :
    (source.drain s).1 = items ∧ source.content (source.drain s).2 = [] := by
  induction items generalizing s with
  | nil =>
    obtain ⟨later, found, empty⟩ := delivers
    simp [source.drain_none s later found, empty]
  | cons item rest ih =>
    obtain ⟨later, found, _, further⟩ := delivers
    simp [source.drain_some s later item found, ih further]

theorem Source.delivers_of_drain (source : Source S F B) (s : S) (items : List F)
    (content : source.content s = items.flatMap source.raw) (drained : (source.drain s).1 = items) :
    source.Delivers s items := by
  induction items generalizing s with
  | nil =>
    cases found : source.next s with
    | mk item later =>
      cases item with
      | none =>
        have inside := source.keeps s later found
        rw [content, List.flatMap_nil, List.suffix_nil] at inside
        exact ⟨later, found, inside⟩
      | some item =>
        rw [source.drain_some s later item found] at drained
        cases drained
  | cons item rest ih =>
    cases found : source.next s with
    | mk first later =>
      cases first with
      | none =>
        rw [source.drain_none s later found] at drained
        cases drained
      | some first =>
        rw [source.drain_some s later first found, List.cons.injEq] at drained
        obtain ⟨rfl, further⟩ := drained
        have inside := (source.takes s first later found).2
        have volume := source.drain_volume later
        rw [further] at volume
        rw [content, List.flatMap_cons] at inside
        have bounded := inside.length_le
        have same : source.raw first ++ source.content later = source.raw first ++ rest.flatMap source.raw := by
          apply inside.eq_of_length
          simp only [List.length_append] at bounded ⊢
          omega
        have left := List.append_cancel_left same
        exact ⟨later, found, left, ih later left further⟩

theorem Source.delivers_all (source : Source S F B) (items : List F)
    (first : ∀ item ∈ items, ∀ s rest, source.content s = source.raw item ++ rest →
      ∃ later, source.next s = (some item, later) ∧ source.content later = rest)
    (s : S) (content : source.content s = items.flatMap source.raw) : source.Delivers s items := by
  induction items generalizing s with
  | nil =>
    rw [List.flatMap_nil] at content
    cases found : source.next s with
    | mk item later =>
      cases item with
      | none =>
        have inside := source.keeps s later found
        rw [content, List.suffix_nil] at inside
        exact ⟨later, found, inside⟩
      | some item =>
        obtain ⟨proper, inside⟩ := source.takes s item later found
        rw [content, List.suffix_nil] at inside
        exact absurd (List.append_eq_nil_iff.mp inside).1 proper
  | cons item rest ih =>
    rw [List.flatMap_cons] at content
    obtain ⟨later, found, left⟩ := first item (by simp) s _ content
    exact ⟨later, found, left, ih (fun other member => first other (List.mem_cons_of_mem item member)) later left⟩

theorem Source.delivers_iff (source : Source S F B) (s : S) (items : List F)
    (content : source.content s = items.flatMap source.raw) :
    (source.drain s).1 = items ↔ source.Delivers s items :=
  ⟨source.delivers_of_drain s items content, fun delivers => delivers.drain.1⟩

/-- Pieces cut out of a stream one behind the other, and what is left of the stream behind the last of them. -/
inductive Carved : List B → List (List B) → List B → Prop where
  | rest (gap left : List B) : Carved (gap ++ left) [] left
  | piece (gap raw : List B) {stream : List B} {pieces : List (List B)} {left : List B} :
      Carved stream pieces left → Carved (gap ++ (raw ++ stream)) (raw :: pieces) left

theorem Carved.suffix {stream : List B} {pieces : List (List B)} {left : List B}
    (carved : Carved stream pieces left) : left <:+ stream := by
  induction carved with
  | rest gap left => exact List.suffix_append gap left
  | piece gap raw _ ih =>
    rw [← List.append_assoc]
    exact ih.trans (List.suffix_append _ _)

theorem Carved.extend {stream : List B} {pieces : List (List B)} {left : List B}
    (carved : Carved stream pieces left) (data : List B) : Carved (stream ++ data) pieces (left ++ data) := by
  induction carved with
  | rest gap left =>
    rw [List.append_assoc]
    exact .rest gap (left ++ data)
  | piece gap raw _ ih =>
    rw [List.append_assoc, List.append_assoc]
    exact .piece gap raw ih

theorem Carved.shrink {stream : List B} {pieces : List (List B)} {left later : List B}
    (carved : Carved stream pieces left) (inside : later <:+ left) : Carved stream pieces later := by
  induction carved with
  | rest gap left =>
    obtain ⟨lost, rfl⟩ := inside
    rw [← List.append_assoc]
    exact .rest (gap ++ lost) later
  | piece gap raw _ ih => exact .piece gap raw (ih inside)

theorem Carved.take {stream : List B} {pieces : List (List B)} {left raw later : List B}
    (carved : Carved stream pieces left) (inside : raw ++ later <:+ left) :
    Carved stream (pieces ++ [raw]) later := by
  induction carved with
  | rest gap left =>
    obtain ⟨skipped, rfl⟩ := inside
    rw [← List.append_assoc]
    exact .piece (gap ++ skipped) raw (.rest [] later)
  | piece gap raw _ ih => exact .piece gap raw (ih inside)

theorem Carved.skip {stream : List B} {pieces : List (List B)} {left : List B} (carved : Carved stream pieces left)
    (gap : List B) : Carved (gap ++ stream) pieces left := by
  cases carved with
  | rest more left =>
    rw [← List.append_assoc]
    exact .rest (gap ++ more) left
  | piece more raw behind =>
    rw [← List.append_assoc]
    exact .piece (gap ++ more) raw behind

theorem Carved.sublist {stream : List B} {pieces wanted : List (List B)} {left : List B}
    (carved : Carved stream pieces left) (inside : wanted.Sublist pieces) : Carved stream wanted left := by
  induction carved generalizing wanted with
  | rest gap left =>
    rw [List.sublist_nil.mp inside]
    exact .rest gap left
  | piece gap raw _ ih =>
    cases inside with
    | cons _ dropped => exact ((ih dropped).skip raw).skip gap
    | cons_cons _ kept => exact .piece gap raw (ih kept)

theorem Source.carved_next (source : Source S F B) {stream : List B} {pieces : List (List B)} {s : S}
    (carved : Carved stream pieces (source.content s)) :
    Carved stream (pieces ++ (source.next s).1.toList.map source.raw) (source.content (source.next s).2) := by
  cases found : source.next s with
  | mk item later =>
    cases item with
    | none =>
      rw [Option.toList_none, List.map_nil, List.append_nil]
      exact carved.shrink (source.keeps s later found)
    | some item =>
      rw [Option.toList_some, List.map_singleton]
      exact carved.take (source.takes s item later found).2

theorem Source.carved_drain (source : Source S F B) {stream : List B} {pieces : List (List B)} {s : S}
    (carved : Carved stream pieces (source.content s)) :
    Carved stream (pieces ++ (source.drain s).1.map source.raw) (source.content (source.drain s).2) := by
  have next := source.carved_next carved
  cases found : source.next s with
  | mk item later =>
    rw [found] at next
    cases item with
    | none => simpa [source.drain_none s later found] using next
    | some item =>
      have shorter := source.shrinks s item later found
      simpa [source.drain_some s later item found] using source.carved_drain next
termination_by (source.content s).length

theorem flatMap_prefix (view : F → List B) (items : List F) (front : List B) (inside : front <+: items.flatMap view) :
    ∃ whole torn rest part, items = whole ++ torn ++ rest ∧ torn.length ≤ 1 ∧ part <+: torn.flatMap view ∧
      front = whole.flatMap view ++ part := by
  induction items generalizing front with
  | nil => exact ⟨[], [], [], [], rfl, Nat.zero_le _, List.prefix_rfl, by simpa using inside⟩
  | cons item rest ih =>
    rw [List.flatMap_cons] at inside
    rcases List.prefix_or_prefix_of_prefix inside (List.prefix_append (view item) _) with within | beyond
    · exact ⟨[], [item], rest, front, rfl, Nat.le_refl _, by simpa using within, rfl⟩
    · obtain ⟨later, rfl⟩ := beyond
      obtain ⟨whole, torn, left, part, rfl, last, begun, same⟩ := ih later ((List.prefix_append_right_inj _).mp inside)
      exact ⟨item :: whole, torn, left, part, rfl, last, begun, by simp [same]⟩

end Draining
