import MavRouter.Shared.Maps
import MavRouter.Shared.Runs

set_option autoImplicit false

namespace Wheel

open Maps

variable {α : Type}

inductive Event (α : Type) where
  | recorded (item : α)
  | turned
  | idle

def Event.isTurn : Event α → Bool
  | .turned => true
  | _ => false

def turns (events : List (Event α)) : Nat := events.countP Event.isTurn

def RecordedAgo (events : List (Event α)) (item : α) (age : Nat) : Prop :=
  ∃ older newer, events = older ++ .recorded item :: newer ∧ turns newer = age

def Recent (size : Nat) (events : List (Event α)) (item : α) : Prop :=
  ∃ age, age < size ∧ RecordedAgo events item age

theorem recordedAgo_nil (item : α) (age : Nat) : ¬RecordedAgo [] item age := by
  rintro ⟨older, newer, split, _⟩
  simp at split

theorem recordedAgo_concat (events : List (Event α)) (event : Event α) (item : α) (age : Nat) :
    RecordedAgo (events ++ [event]) item age ↔
      (event = .recorded item ∧ age = 0) ∨
        ∃ before, RecordedAgo events item before ∧ age = before + if event.isTurn then 1 else 0 := by
  constructor
  · rintro ⟨older, newer, split, count⟩
    cases (Runs.concat_split events older newer event _).mp split with
    | inl last =>
      obtain ⟨rfl, rfl, same⟩ := last
      exact .inl ⟨same, count.symm⟩
    | inr earlier =>
      obtain ⟨front, rfl, same⟩ := earlier
      refine .inr ⟨turns front, ⟨older, front, same, rfl⟩, ?_⟩
      rw [← count]
      simp [turns, List.countP_singleton]
  · intro split
    cases split with
    | inl last =>
      obtain ⟨rfl, rfl⟩ := last
      exact ⟨events, [], rfl, rfl⟩
    | inr earlier =>
      obtain ⟨before, ⟨older, newer, rfl, count⟩, rfl⟩ := earlier
      refine ⟨older, newer ++ [event], by simp, ?_⟩
      rw [← count]
      simp [turns, List.countP_singleton]

theorem recordedAgo_turned (item : α) (count age : Nat) :
    RecordedAgo (.recorded item :: List.replicate count .turned) item age ↔ age = count := by
  induction count generalizing age with
  | zero =>
    rw [List.replicate_zero, ← List.nil_append [_], recordedAgo_concat]
    simp [recordedAgo_nil]
  | succ count ih =>
    rw [List.replicate_succ', ← List.cons_append, recordedAgo_concat]
    simp [ih, Event.isTurn]

theorem recent_recorded (size : Nat) (positive : 0 < size) (events : List (Event α)) (item : α) :
    Recent size (events ++ [.recorded item]) item :=
  ⟨0, positive, (recordedAgo_concat events _ item 0).mpr (.inl ⟨rfl, rfl⟩)⟩

theorem recent_kept (size : Nat) (events : List (Event α)) (item : α) (recent : Recent size events item)
    (event : Event α) (still : event.isTurn = false) : Recent size (events ++ [event]) item := by
  obtain ⟨age, young, recorded⟩ := recent
  refine ⟨age, young, (recordedAgo_concat events event item age).mpr (.inr ⟨age, recorded, ?_⟩)⟩
  simp [still]

-- The bucket that was the current one so many turns ago.
def slot (size current age : Nat) : Nat := if age ≤ current then current - age else current + size - age

def next (size current : Nat) : Nat := (current + 1) % size

theorem next_cases (size current : Nat) (inside : current < size) :
    next size current = if current + 1 = size then 0 else current + 1 := by
  unfold next
  split_ifs with last
  · rw [last, Nat.mod_self]
  · exact Nat.mod_eq_of_lt (by omega)

theorem next_inside (size current : Nat) (inside : current < size) : next size current < size :=
  Nat.mod_lt _ (by omega)

@[simp] theorem slot_zero (size current : Nat) : slot size current 0 = current := by
  simp [slot]

theorem slot_current (size current age : Nat) (bounded : age < size) :
    slot size current age = current ↔ age = 0 := by
  unfold slot
  split_ifs <;> omega

theorem slot_next (size current age : Nat) (bounded : age + 1 < size) (inside : current < size) :
    slot size (next size current) (age + 1) = slot size current age := by
  rw [next_cases size current inside]
  unfold slot
  split_ifs <;> omega

theorem slot_surjective (size current index : Nat) (inside : current < size) (bounded : index < size) :
    ∃ age, age < size ∧ slot size current age = index := by
  by_cases before : index ≤ current
  · refine ⟨current - index, by omega, ?_⟩
    unfold slot
    split_ifs <;> omega
  · refine ⟨current + size - index, by omega, ?_⟩
    unfold slot
    split_ifs <;> omega

def Holds (buckets : List (HashSet α)) (index : Nat) (item : α) : Prop :=
  ∃ bucket, buckets[index]? = some bucket ∧ item ∈ bucket

theorem any_holds [DecidableEq α] (buckets : List (HashSet α)) (item : α) :
    (buckets.any fun bucket => decide (item ∈ bucket)) = true ↔ ∃ index, Holds buckets index item := by
  rw [List.any_eq_true]
  constructor
  · rintro ⟨bucket, member, holds⟩
    obtain ⟨index, found⟩ := List.getElem?_of_mem member
    exact ⟨index, bucket, found, of_decide_eq_true holds⟩
  · rintro ⟨index, bucket, found, holds⟩
    exact ⟨bucket, List.mem_of_getElem? found, decide_eq_true holds⟩

/-- Every bucket holds what was recorded while it was the current one for the last time. -/
structure Tracks (buckets : List (HashSet α)) (current : Nat) (events : List (Event α)) : Prop where
  inside : current < buckets.length
  ages : ∀ age, age < buckets.length → ∀ item,
    Holds buckets (slot buckets.length current age) item ↔ RecordedAgo events item age

theorem tracks_new (size : Nat) (positive : 0 < size) :
    Tracks (List.replicate size (∅ : HashSet α)) 0 ([] : List (Event α)) where
  inside := by simpa using positive
  ages := by
    intro age _ item
    refine iff_of_false ?_ (recordedAgo_nil item age)
    rintro ⟨bucket, found, member⟩
    rw [List.getElem?_replicate] at found
    split at found <;> cases found
    exact AList.notMem_empty item member

theorem tracks_idle (buckets : List (HashSet α)) (current : Nat) (events : List (Event α))
    (tracks : Tracks buckets current events) : Tracks buckets current (events ++ [.idle]) where
  inside := tracks.inside
  ages := by
    intro age bounded item
    rw [tracks.ages age bounded item, recordedAgo_concat]
    simp [Event.isTurn]

theorem holds_clear (buckets : List (HashSet α)) (cleared index : Nat) (item : α) :
    Holds (buckets.set cleared ∅) index item ↔ cleared ≠ index ∧ Holds buckets index item := by
  unfold Holds
  rw [List.getElem?_set]
  split_ifs with same inside
  · simp [same, AList.notMem_empty]
  · simp [same]
  · simp [same]

theorem tracks_turn (buckets : List (HashSet α)) (current : Nat) (events : List (Event α))
    (tracks : Tracks buckets current events) :
    Tracks (buckets.set (next buckets.length current) ∅) (next buckets.length current) (events ++ [.turned]) where
  inside := by
    rw [List.length_set]
    exact next_inside _ _ tracks.inside
  ages := by
    intro age bounded item
    rw [List.length_set] at bounded ⊢
    rw [holds_clear, recordedAgo_concat]
    cases age with
    | zero => simp [Event.isTurn]
    | succ age =>
      have elsewhere : next buckets.length current ≠ slot buckets.length (next buckets.length current) (age + 1) := by
        intro same
        cases (slot_current _ _ (age + 1) bounded).mp same.symm
      rw [slot_next _ _ _ bounded tracks.inside] at elsewhere ⊢
      rw [tracks.ages age (by omega) item]
      simp [Event.isTurn, elsewhere]

variable [DecidableEq α]

theorem holds_modify (buckets : List (HashSet α)) (current index : Nat) (item other : α)
    (inside : current < buckets.length) :
    Holds (buckets.modify current fun bucket => bucket.insert item ()) index other ↔
      Holds buckets index other ∨ (current = index ∧ item = other) := by
  unfold Holds
  rw [List.getElem?_modify]
  split_ifs with same
  · subst same
    simp [inside, eq_comm, or_comm]
  · simp [same]

theorem tracks_record (buckets : List (HashSet α)) (current : Nat) (events : List (Event α))
    (tracks : Tracks buckets current events) (item : α) :
    Tracks (buckets.modify current fun bucket => bucket.insert item ()) current (events ++ [.recorded item]) where
  inside := by simpa using tracks.inside
  ages := by
    intro age bounded other
    rw [List.length_modify] at bounded ⊢
    have here := slot_current _ current age bounded
    rw [holds_modify _ _ _ _ _ tracks.inside, tracks.ages age bounded other, recordedAgo_concat, eq_comm (a := current),
      here]
    simp [Event.isTurn, and_comm, or_comm]

theorem tracks_any (buckets : List (HashSet α)) (current : Nat) (events : List (Event α))
    (tracks : Tracks buckets current events) (item : α) :
    (buckets.any fun bucket => decide (item ∈ bucket)) = true ↔ Recent buckets.length events item := by
  rw [any_holds]
  constructor
  · rintro ⟨index, bucket, found, member⟩
    have bounded := (List.getElem?_eq_some_iff.mp found).1
    obtain ⟨age, young, same⟩ := slot_surjective _ current index tracks.inside bounded
    refine ⟨age, young, (tracks.ages age young item).mp ?_⟩
    rw [same]
    exact ⟨bucket, found, member⟩
  · rintro ⟨age, young, recorded⟩
    exact ⟨_, (tracks.ages age young item).mpr recorded⟩

end Wheel
