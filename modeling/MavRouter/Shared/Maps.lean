import Mathlib.Data.Finset.Card
import Mathlib.Data.Fintype.Card
import Mathlib.Data.List.AList

set_option autoImplicit false

namespace Maps

-- A hash map is its entries in some iteration order; nothing below depends on which order it is.
abbrev HashMap (K V : Type) := AList fun _ : K => V

abbrev HashSet (K : Type) := HashMap K Unit

variable {K V : Type}

namespace HashMap

def len (m : HashMap K V) : Nat := m.entries.length

def retain (m : HashMap K V) (keep : K → V → Bool) : HashMap K V where
  entries := m.entries.filter fun entry => keep entry.1 entry.2
  nodupKeys := m.nodupKeys.sublist List.filter_sublist

def count (m : HashMap K V) (p : K → V → Bool) : Nat :=
  m.entries.countP fun entry => p entry.1 entry.2

theorem count_le_len (m : HashMap K V) (p : K → V → Bool) : m.count p ≤ m.len :=
  List.countP_le_length

theorem count_retain (m : HashMap K V) (keep p : K → V → Bool) :
    (m.retain keep).count p + m.count (fun k v => !keep k v && p k v) = m.count p := by
  simp only [count, retain, List.countP_filter]
  induction m.entries with
  | nil => rfl
  | cons entry rest ih =>
    simp only [List.countP_cons]
    cases keep entry.1 entry.2 <;> cases p entry.1 entry.2 <;> simp <;> omega

variable [DecidableEq K]

theorem lookup_retain (m : HashMap K V) (keep : K → V → Bool) (k : K) :
    (m.retain keep).lookup k = (m.lookup k).filter (keep k) := by
  ext v
  rw [← Option.mem_def, AList.mem_lookup_iff, ← Option.mem_def, Option.mem_filter_iff, AList.mem_lookup_iff]
  simp [retain]

theorem count_pos_iff (m : HashMap K V) (p : K → V → Bool) :
    0 < m.count p ↔ ∃ k v, m.lookup k = some v ∧ p k v = true := by
  simp only [count, List.countP_pos_iff]
  constructor
  · rintro ⟨⟨k, v⟩, member, holds⟩
    exact ⟨k, v, AList.mem_lookup_iff.mpr member, holds⟩
  · rintro ⟨k, v, found, holds⟩
    exact ⟨⟨k, v⟩, AList.mem_lookup_iff.mp found, holds⟩

def hit (p : K → V → Bool) (k : K) : Option V → Nat
  | none => 0
  | some v => (p k v).toNat

theorem count_kerase (entries : List (Sigma fun _ : K => V)) (nodup : entries.NodupKeys) (p : K → V → Bool) (k : K) :
    (entries.kerase k).countP (fun entry => p entry.1 entry.2) + hit p k (entries.dlookup k) =
      entries.countP fun entry => p entry.1 entry.2 := by
  induction entries with
  | nil => rfl
  | cons entry rest ih =>
    obtain ⟨key, value⟩ := entry
    have tail := ih (List.nodupKeys_cons.mp nodup).2
    by_cases same : key = k
    · subst same
      simp only [List.kerase_cons_eq, List.dlookup_cons_eq, List.countP_cons, hit]
      cases p key value <;> simp
    · have passed := List.dlookup_cons_ne rest (⟨key, value⟩ : Sigma fun _ : K => V) (Ne.symm same)
      rw [List.kerase_cons_ne (Ne.symm same), passed, List.countP_cons, List.countP_cons]
      omega

theorem count_erase (m : HashMap K V) (p : K → V → Bool) (k : K) :
    HashMap.count (m.erase k) p + hit p k (m.lookup k) = m.count p :=
  count_kerase m.entries m.nodupKeys p k

theorem count_insert (m : HashMap K V) (p : K → V → Bool) (k : K) (v : V) :
    HashMap.count (m.insert k v) p + hit p k (m.lookup k) = m.count p + (p k v).toNat := by
  have erased := count_kerase m.entries m.nodupKeys p k
  simp only [count, AList.entries_insert, List.countP_cons]
  change _ + hit p k (m.entries.dlookup k) = _
  cases p k v <;> simp <;> omega

theorem len_eq_card_keys (m : HashMap K V) : m.len = m.keys.toFinset.card := by
  rw [List.toFinset_card_of_nodup m.keys_nodup, len, AList.keys, List.keys, List.length_map]

theorem len_le_of_subset (m : HashMap K V) (s : Finset K) (inside : ∀ k ∈ m, k ∈ s) : m.len ≤ s.card := by
  rw [len_eq_card_keys]
  exact Finset.card_le_card fun k member => inside k (AList.mem_keys.mpr (List.mem_toFinset.mp member))

theorem len_eq_card (m : HashMap K V) (s : Finset K) (exact : ∀ k, k ∈ s ↔ (m.lookup k).isSome) :
    m.len = s.card := by
  rw [len_eq_card_keys]
  congr 1
  ext k
  rw [exact k, AList.lookup_isSome, List.mem_toFinset, AList.mem_keys]

end HashMap

namespace HashSet

variable [DecidableEq K]

def toFinset (s : HashSet K) : Finset K := s.keys.toFinset

@[simp] theorem mem_toFinset (s : HashSet K) (k : K) : k ∈ toFinset s ↔ k ∈ s := by
  simp [toFinset, AList.mem_keys]

@[simp] theorem toFinset_insert (s : HashSet K) (k : K) : toFinset (s.insert k ()) = insert k (toFinset s) := by
  ext x
  simp

@[simp] theorem toFinset_singleton (k : K) : toFinset (AList.singleton k ()) = {k} := rfl

theorem count_keys (s : HashSet K) (k : K) : s.keys.count k = if k ∈ s then 1 else 0 := by
  simp only [s.keys_nodup.count, AList.mem_keys]

end HashSet

end Maps
