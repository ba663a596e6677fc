import Mathlib.Data.List.TakeWhile

set_option autoImplicit false

namespace Search

variable {A : Type}

-- A binary search that compares once a turn and never stops early.
def narrow (pred : A → Bool) (slice : List A) (base size : Nat) : Nat :=
  if size ≤ 1 then base
  else
    let half := size / 2
    let mid := base + half
    narrow pred slice (if slice[mid]?.any pred then mid else base) (size - half)
termination_by size

/-- The index of the first element the predicate fails for, if it fails for all that follow it as well. -/
def partitionPoint (pred : A → Bool) (slice : List A) : Nat :=
  if slice.isEmpty then 0
  else
    let base := narrow pred slice 0 slice.length
    if slice[base]?.any pred then base + 1 else base

-- The same for a ring buffer, whose elements lie in two slices.
def ringPartitionPoint (pred : A → Bool) (front back : List A) : Nat :=
  if back.head?.any pred then partitionPoint pred back + front.length else partitionPoint pred front

section Partitioned

variable (pred : A → Bool) (below above : List A) (holds : ∀ x ∈ below, pred x = true)
  (fails : ∀ x ∈ above, pred x = false)

include holds fails

theorem pred_at (index : Nat) : ((below ++ above)[index]?.any pred = true) ↔ index < below.length := by
  by_cases inside : index < below.length
  · rw [List.getElem?_append_left inside, List.getElem?_eq_getElem inside]
    simp [inside, holds]
  · rw [List.getElem?_append_right (by omega)]
    cases found : above[index - below.length]? with
    | none => simp [inside]
    | some x => simp [inside, fails x (List.mem_of_getElem? found)]

theorem narrow_reaches (base size : Nat) (start : base = 0 ∨ base < below.length)
    (stop : below.length ≤ base + size) :
    let found := narrow pred (below ++ above) base size
    (found = 0 ∨ found < below.length) ∧ below.length ≤ found + 1 := by
  induction size using Nat.strongRecOn generalizing base with
  | ind size ih =>
    rw [narrow]
    split_ifs with small
    · exact ⟨start, by omega⟩
    · apply ih (size - size / 2) (by omega)
      · split_ifs with lower
        · exact .inr ((pred_at pred below above holds fails _).mp lower)
        · exact start
      · split_ifs with lower
        · omega
        · rw [pred_at pred below above holds fails] at lower
          omega

theorem partitionPoint_eq : partitionPoint pred (below ++ above) = below.length := by
  have reached := narrow_reaches pred below above holds fails 0 (below ++ above).length (.inl rfl) (by simp)
  have atFound := pred_at pred below above holds fails (narrow pred (below ++ above) 0 (below ++ above).length)
  simp only [partitionPoint] at reached ⊢
  split_ifs with empty lower
  · rw [List.isEmpty_iff, List.append_eq_nil_iff] at empty
    rw [empty.1, List.length_nil]
  · rw [atFound] at lower
    omega
  · rw [atFound] at lower
    omega

theorem ringPartitionPoint_eq (front back : List A) (ring : front ++ back = below ++ above) :
    ringPartitionPoint pred front back = below.length := by
  rw [ringPartitionPoint]
  rcases List.append_eq_append_iff.mp ring with ⟨inner, rfl, rfl⟩ | ⟨inner, rfl, rfl⟩
  · have innerHolds : ∀ x ∈ inner, pred x = true := fun x member => holds x (List.mem_append_right _ member)
    split_ifs with lower
    · rw [partitionPoint_eq pred inner above innerHolds fails, List.length_append, Nat.add_comm]
    · cases inner with
      | nil =>
        have point := partitionPoint_eq pred (front ++ []) [] holds (by simp)
        simpa using point
      | cons x rest => simp [innerHolds x (by simp)] at lower
  · have backFails : ∀ x ∈ back, pred x = false := fun x member => fails x (List.mem_append_right _ member)
    have upper : ¬back.head?.any pred = true := by
      cases back with
      | nil => simp
      | cons x rest => simp [backFails x (by simp)]
    rw [if_neg upper]
    exact partitionPoint_eq pred below inner holds (fun x member => fails x (List.mem_append_left _ member))

end Partitioned

theorem filter_eq_dropWhile (pred : A → Bool) (l : List A)
    (ordered : l.Pairwise fun older newer => pred newer = true → pred older = true) :
    l.filter (fun x => !pred x) = l.dropWhile pred := by
  induction l with
  | nil => rfl
  | cons x rest ih =>
    obtain ⟨first, later⟩ := List.pairwise_cons.mp ordered
    by_cases below : pred x = true
    · rw [List.filter_cons_of_neg (by simp [below]), List.dropWhile_cons_of_pos below, ih later]
    · rw [List.dropWhile_cons_of_neg below, List.filter_eq_self]
      intro y member
      cases List.mem_cons.mp member with
      | inl same => simp [same, below]
      | inr behind =>
        have above : pred y ≠ true := fun lower => below (first y behind lower)
        simp [above]

theorem drop_ringPartitionPoint (pred : A → Bool) (front back : List A)
    (ordered : (front ++ back).Pairwise fun older newer => pred newer = true → pred older = true) :
    (front ++ back).drop (ringPartitionPoint pred front back) = (front ++ back).filter fun x => !pred x := by
  have split : front ++ back = (front ++ back).takeWhile pred ++ (front ++ back).dropWhile pred :=
    List.takeWhile_append_dropWhile.symm
  have fails : ∀ x ∈ (front ++ back).dropWhile pred, pred x = false := by
    intro x member
    rw [← filter_eq_dropWhile pred _ ordered, List.mem_filter] at member
    simpa using member.2
  have point := ringPartitionPoint_eq pred _ _ (fun x member => List.mem_takeWhile_imp member) fails front back split
  rw [point, filter_eq_dropWhile pred _ ordered]
  generalize (front ++ back).dropWhile pred = above at split
  generalize (front ++ back).takeWhile pred = below at split
  rw [split, List.drop_left]

end Search
