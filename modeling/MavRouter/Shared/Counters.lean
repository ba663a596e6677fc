import Mathlib.Logic.Function.Basic
import MavRouter.Shared.Maps

set_option autoImplicit false

namespace Maps.Counters

variable {K V : Type} [DecidableEq K]

def bump (cap : Nat) (counts : HashMap K Nat) (k : K) : HashMap K Nat :=
  counts.insert k (min cap ((counts.lookup k).getD 0 + 1))

def release (counts : HashMap K Nat) (k : K) (n : Nat) : HashMap K Nat :=
  match counts.lookup k with
  | none => counts
  | some current => if current - n = 0 then counts.erase k else counts.insert k (current - n)

def Represents (counts : HashMap K Nat) (f : K → Nat) : Prop :=
  ∀ k, counts.lookup k = if f k = 0 then none else some (f k)

theorem Represents.mem_iff {counts : HashMap K Nat} {f : K → Nat} (represents : Represents counts f) (k : K) :
    k ∈ counts ↔ 0 < f k := by
  rw [← AList.lookup_isSome, represents k]
  by_cases zero : f k = 0 <;> simp [zero, Nat.pos_iff_ne_zero]

theorem Represents.getD {counts : HashMap K Nat} {f : K → Nat} (represents : Represents counts f) (k : K) :
    (counts.lookup k).getD 0 = f k := by
  rw [represents k]
  split_ifs with zero
  · exact zero.symm
  · rfl

theorem empty_represents : Represents (∅ : HashMap K Nat) fun _ => 0 := by
  intro k
  simp

theorem bump_represents (cap : Nat) (counts : HashMap K Nat) (f : K → Nat) (represents : Represents counts f)
    (k : K) (room : f k < cap) : Represents (bump cap counts k) (Function.update f k (f k + 1)) := by
  intro x
  by_cases same : x = k
  · subst same
    simp [bump, represents.getD, Nat.min_eq_right (Nat.succ_le_of_lt room)]
  · rw [bump, AList.lookup_insert_ne same, represents x, Function.update_of_ne same]

theorem release_represents (counts : HashMap K Nat) (f : K → Nat) (represents : Represents counts f)
    (k : K) (n : Nat) : Represents (release counts k n) (Function.update f k (f k - n)) := by
  intro x
  by_cases zero : f k = 0
  · have absent : counts.lookup k = none := by simp [represents k, zero]
    have unchanged : Function.update f k (f k - n) = f := by simp [zero]
    rw [release, absent, unchanged]
    exact represents x
  · have present : counts.lookup k = some (f k) := by simp [represents k, zero]
    rw [release, present]
    by_cases same : x = k
    · subst same
      by_cases gone : f x - n = 0 <;> simp [gone]
    · rw [Function.update_of_ne same, ← represents x]
      dsimp only
      split_ifs
      · exact AList.lookup_erase_ne same
      · exact AList.lookup_insert_ne same

theorem bumpAll_represents (cap : Nat) (counts : HashMap K Nat) (f : K → Nat) (represents : Represents counts f)
    (keys : List K) (room : ∀ k, f k + keys.count k ≤ cap) :
    Represents (keys.foldl (bump cap) counts) fun k => f k + keys.count k := by
  induction keys generalizing counts f with
  | nil => simpa using represents
  | cons key rest ih =>
    have first : f key < cap := by
      have := room key
      simp only [List.count_cons_self] at this
      omega
    have shifted : ∀ k, Function.update f key (f key + 1) k + rest.count k = f k + (key :: rest).count k := by
      intro k
      by_cases same : k = key
      · subst same
        simp only [Function.update_self, List.count_cons_self]
        omega
      · simp [Function.update_of_ne same, List.count_cons_of_ne (Ne.symm same)]
    have later := ih (bump cap counts key) _ (bump_represents cap counts f represents key first)
      (fun k => by rw [shifted k]; exact room k)
    simpa only [List.foldl_cons, shifted] using later

def releaseAll (counts : HashMap K Nat) (releases : List (K × Nat)) : HashMap K Nat :=
  releases.foldl (fun counts released => release counts released.1 released.2) counts

def amount : List (K × Nat) → K → Nat
  | [], _ => 0
  | released :: rest, k => (if released.1 = k then released.2 else 0) + amount rest k

/-- Every subtraction finds at least what it takes away when its turn comes. -/
def NeverClips : HashMap K Nat → List (K × Nat) → Prop
  | _, [] => True
  | counts, released :: rest =>
    released.2 ≤ (counts.lookup released.1).getD 0 ∧ NeverClips (release counts released.1 released.2) rest

theorem amount_ones (keys : List K) (k : K) : amount (keys.map fun key => (key, 1)) k = keys.count k := by
  induction keys with
  | nil => rfl
  | cons key rest ih =>
    rw [List.map_cons, amount, ih, List.count_cons, Nat.add_comm]
    simp only [beq_iff_eq]

theorem amount_entries (counts : HashMap K Nat) (k : K) :
    amount (counts.entries.map fun entry => (entry.1, entry.2)) k = (counts.lookup k).getD 0 := by
  have each (entries : List (Sigma fun _ : K => Nat)) (nodup : entries.NodupKeys) :
      amount (entries.map fun entry => (entry.1, entry.2)) k = (entries.dlookup k).getD 0 := by
    induction entries with
    | nil => rfl
    | cons entry rest ih =>
      obtain ⟨key, n⟩ := entry
      obtain ⟨fresh, tail⟩ := List.nodupKeys_cons.mp nodup
      rw [List.map_cons, amount, ih tail]
      by_cases same : key = k
      · subst same
        simp [List.dlookup_eq_none.mpr fresh]
      · have passed := List.dlookup_cons_ne rest (⟨key, n⟩ : Sigma fun _ : K => Nat) (Ne.symm same)
        rw [passed, if_neg same, Nat.zero_add]
  exact each counts.entries counts.nodupKeys

theorem update_amount (f : K → Nat) (k : K) (n : Nat) (rest : List (K × Nat)) (x : K) :
    Function.update f k (f k - n) x - amount rest x = f x - amount ((k, n) :: rest) x := by
  simp only [amount]
  by_cases same : x = k
  · subst same
    rw [Function.update_self, if_pos rfl]
    omega
  · rw [Function.update_of_ne same, if_neg (Ne.symm same)]
    omega

theorem releaseAll_represents (counts : HashMap K Nat) (f : K → Nat) (represents : Represents counts f)
    (releases : List (K × Nat)) : Represents (releaseAll counts releases) fun k => f k - amount releases k := by
  induction releases generalizing counts f with
  | nil => simpa [amount, releaseAll] using represents
  | cons released rest ih =>
    obtain ⟨key, n⟩ := released
    have later := ih (release counts key n) _ (release_represents counts f represents key n)
    simp only [update_amount] at later
    exact later

theorem neverClips_of_amount (counts : HashMap K Nat) (f : K → Nat) (represents : Represents counts f)
    (releases : List (K × Nat)) (covered : ∀ k, amount releases k ≤ f k) : NeverClips counts releases := by
  induction releases generalizing counts f with
  | nil => trivial
  | cons released rest ih =>
    obtain ⟨key, n⟩ := released
    have here := covered key
    simp only [amount, if_true] at here
    constructor
    · rw [represents.getD]
      change n ≤ f key
      omega
    · apply ih _ _ (release_represents counts f represents key n)
      intro k
      have there := covered k
      simp only [amount] at there ⊢
      by_cases same : k = key
      · subst same
        rw [if_pos rfl] at there
        rw [Function.update_self]
        omega
      · rw [if_neg (Ne.symm same)] at there
        rw [Function.update_of_ne same]
        omega

theorem neverClips_append (counts : HashMap K Nat) (first second : List (K × Nat)) :
    NeverClips counts (first ++ second) ↔ NeverClips counts first ∧ NeverClips (releaseAll counts first) second := by
  induction first generalizing counts with
  | nil => simp [NeverClips, releaseAll]
  | cons released rest ih =>
    rw [List.cons_append, NeverClips, NeverClips, ih, and_assoc]
    rfl

end Maps.Counters
