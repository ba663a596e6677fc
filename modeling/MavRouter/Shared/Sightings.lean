import Mathlib.Data.Finset.Insert
import Mathlib.Logic.Function.Basic
import MavRouter.Shared.Runs

set_option autoImplicit false

namespace Sightings

variable {K E Op : Type} [DecidableEq K] [DecidableEq E]

structure Sighting (E : Type) where
  observers : Finset E
  lastSeen : Nat

abbrev Board (K E : Type) := K → Option (Sighting E)

def Board.empty : Board K E := fun _ => none

def observersOf : Option (Sighting E) → Finset E
  | none => ∅
  | some sighting => sighting.observers

inductive Event (K E : Type) where
  | seen (key : K) (observer : E) (now : Nat)
  | expire (now maxAge : Nat)

def Board.see (board : Board K E) (key : K) (observer : E) (now : Nat) : Board K E :=
  Function.update board key (some { observers := insert observer (observersOf (board key)), lastSeen := now })

def Board.expire (board : Board K E) (now maxAge : Nat) : Board K E :=
  fun key => (board key).filter fun sighting => decide (now - sighting.lastSeen ≤ maxAge)

def Board.apply (board : Board K E) : Option (Event K E) → Board K E
  | none => board
  | some (.seen key observer now) => board.see key observer now
  | some (.expire now maxAge) => board.expire now maxAge

def run (view : Op → Option (Event K E)) (ops : List Op) : Board K E :=
  ops.foldl (fun board op => board.apply (view op)) Board.empty

omit [DecidableEq K] [DecidableEq E] in
@[simp] theorem mem_observersOf (current : Option (Sighting E)) (observer : E) :
    observer ∈ observersOf current ↔ ∃ sighting, current = some sighting ∧ observer ∈ sighting.observers := by
  cases current <;> simp [observersOf]

theorem see_same (board : Board K E) (key : K) (observer : E) (now : Nat) :
    board.see key observer now key =
      some { observers := insert observer (observersOf (board key)), lastSeen := now } :=
  Function.update_self ..

theorem see_other (board : Board K E) (key other : K) (observer : E) (now : Nat) (different : other ≠ key) :
    board.see key observer now other = board other :=
  Function.update_of_ne different ..

omit [DecidableEq K] [DecidableEq E] in
theorem expire_eq_some (board : Board K E) (now maxAge : Nat) (key : K) (sighting : Sighting E) :
    board.expire now maxAge key = some sighting ↔
      board key = some sighting ∧ now - sighting.lastSeen ≤ maxAge := by
  simp [Board.expire, Option.filter_eq_some_iff]

theorem apply_eq_some (board : Board K E) (event : Option (Event K E)) (key : K) (sighting : Sighting E)
    (found : board.apply event key = some sighting) :
    (board key = some sighting ∧
      ∀ now maxAge, event = some (.expire now maxAge) → now ≤ sighting.lastSeen + maxAge) ∨
    ∃ observer now, event = some (.seen key observer now) ∧
      sighting = { observers := insert observer (observersOf (board key)), lastSeen := now } := by
  rcases event with _ | ⟨other, observer, now⟩ | ⟨now, maxAge⟩
  · exact .inl ⟨found, by simp⟩
  · change board.see other observer now key = some sighting at found
    by_cases same : key = other
    · subst same
      rw [see_same, Option.some.injEq] at found
      exact .inr ⟨observer, now, rfl, found.symm⟩
    · rw [see_other _ _ _ _ _ same] at found
      exact .inl ⟨found, by simp⟩
  · obtain ⟨before, young⟩ := (expire_eq_some board now maxAge key sighting).mp found
    refine .inl ⟨before, ?_⟩
    intro now' maxAge' same
    rw [Option.some.injEq, Event.expire.injEq] at same
    omega

theorem run_lastSeen (view : Op → Option (Event K E)) (ops : List Op) (key : K) (sighting : Sighting E)
    (found : run view ops key = some sighting) :
    ∃ op ∈ ops, ∃ observer ∈ sighting.observers, view op = some (.seen key observer sighting.lastSeen) := by
  revert sighting
  apply Runs.run_history (fun board op => board.apply (view op)) Board.empty
    (fun ops board => ∀ sighting : Sighting E, board key = some sighting →
      ∃ op ∈ ops, ∃ observer ∈ sighting.observers, view op = some (.seen key observer sighting.lastSeen))
  · intro sighting found
    cases found
  · intro ops op ih sighting found
    rcases apply_eq_some _ _ _ _ found with ⟨before, _⟩ | ⟨observer, now, seen, rfl⟩
    · obtain ⟨old, member, rest⟩ := ih sighting before
      exact ⟨old, List.mem_append_left _ member, rest⟩
    · exact ⟨op, by simp, observer, by simp, seen⟩

-- Every expiry in the list came at most its maximal age after some report of the key before it.
def Kept (view : Op → Option (Event K E)) (key : K) (ops : List Op) : Prop :=
  ∀ earlier op, earlier ++ [op] <+: ops → ∀ now maxAge, view op = some (.expire now maxAge) →
    ∃ report ∈ earlier, ∃ observer time, view report = some (.seen key observer time) ∧ now ≤ time + maxAge

omit [DecidableEq K] [DecidableEq E] in
theorem kept_concat (view : Op → Option (Event K E)) (key : K) (ops : List Op) (op : Op) (kept : Kept view key ops)
    (last : ∀ now maxAge, view op = some (.expire now maxAge) →
      ∃ report ∈ ops, ∃ observer time, view report = some (.seen key observer time) ∧ now ≤ time + maxAge) :
    Kept view key (ops ++ [op]) := by
  intro earlier next inside now maxAge expires
  rcases List.prefix_concat_iff.mp inside with whole | inner
  · obtain ⟨rfl, same⟩ := List.append_inj' whole rfl
    rw [List.cons.injEq] at same
    exact last now maxAge (same.1 ▸ expires)
  · exact kept earlier next inner now maxAge expires

-- What makes an observer stay listed: its own report, and since then enough reports by anybody.
theorem run_listed (view : Op → Option (Event K E)) (ops : List Op) (key : K) (sighting : Sighting E)
    (found : run view ops key = some sighting) (observer : E) (listed : observer ∈ sighting.observers) :
    ∃ older report newer time, ops = older ++ report :: newer ∧ view report = some (.seen key observer time) ∧
      Kept view key (report :: newer) ∧
      ∃ latest ∈ report :: newer, ∃ fresh, view latest = some (.seen key fresh sighting.lastSeen) := by
  revert sighting
  apply Runs.run_history (fun board op => board.apply (view op)) Board.empty
    (fun ops board => ∀ sighting : Sighting E, board key = some sighting → observer ∈ sighting.observers →
      ∃ older report newer time, ops = older ++ report :: newer ∧ view report = some (.seen key observer time) ∧
        Kept view key (report :: newer) ∧
        ∃ latest ∈ report :: newer, ∃ fresh, view latest = some (.seen key fresh sighting.lastSeen))
  · intro sighting found
    cases found
  · intro ops op ih sighting found listed
    have carry (old : Sighting E) (before : (ops.foldl (fun board op => board.apply (view op)) Board.empty :
          Board K E) key = some old) (was : observer ∈ old.observers)
        (last : ∀ now maxAge, view op = some (.expire now maxAge) → now ≤ old.lastSeen + maxAge)
        (stamp : old.lastSeen = sighting.lastSeen ∨ ∃ fresh, view op = some (.seen key fresh sighting.lastSeen)) :
        ∃ older report newer time, ops ++ [op] = older ++ report :: newer ∧
          view report = some (.seen key observer time) ∧ Kept view key (report :: newer) ∧
          ∃ latest ∈ report :: newer, ∃ fresh, view latest = some (.seen key fresh sighting.lastSeen) := by
      obtain ⟨older, report, newer, time, split, reported, kept, latest, member, witness, stamped⟩ := ih old before was
      refine ⟨older, report, newer ++ [op], time, by simp [split], reported, ?_, ?_⟩
      · rw [← List.cons_append]
        apply kept_concat view key _ op kept
        intro now maxAge expires
        exact ⟨latest, member, witness, old.lastSeen, stamped, last now maxAge expires⟩
      · rcases stamp with same | ⟨fresh, seen⟩
        · exact ⟨latest, List.mem_append_left [op] member, witness, same ▸ stamped⟩
        · exact ⟨op, by simp, fresh, seen⟩
    rcases apply_eq_some _ _ _ _ found with ⟨before, young⟩ | ⟨reporter, now, seen, rfl⟩
    · exact carry sighting before listed young (.inl rfl)
    · by_cases own : observer = reporter
      · subst own
        refine ⟨ops, op, [], now, rfl, seen, ?_, op, by simp, observer, seen⟩
        apply kept_concat view key [] op
        · intro earlier next inside
          simp at inside
        · intro now' maxAge' expires
          simp [seen] at expires
      · have was := (Finset.mem_insert.mp listed).resolve_left own
        obtain ⟨old, before, member⟩ := (mem_observersOf _ _).mp was
        exact carry old before member (by simp [seen]) (.inr ⟨reporter, seen⟩)

def Tracks (lag : Nat) (board : Board K E) (key : K) (observer : E) (time : Nat) : Prop :=
  ∃ sighting, board key = some sighting ∧ observer ∈ sighting.observers ∧ time < sighting.lastSeen + lag

theorem see_tracks (lag : Nat) (positive : 0 < lag) (board : Board K E) (key : K) (observer : E) (now : Nat) :
    Tracks lag (board.see key observer now) key observer now := by
  refine ⟨_, see_same board key observer now, Finset.mem_insert_self _ _, ?_⟩
  change now < now + lag
  omega

theorem tracks_see (lag : Nat) (positive : 0 < lag) (board : Board K E) (key : K) (observer : E) (time : Nat)
    (tracks : Tracks lag board key observer time) (other : K) (reporter : E) (now : Nat) (later : time ≤ now) :
    Tracks lag (board.see other reporter now) key observer time := by
  obtain ⟨sighting, found, listed, recent⟩ := tracks
  by_cases same : key = other
  · subst same
    refine ⟨_, see_same board key reporter now, ?_, ?_⟩
    · apply Finset.mem_insert_of_mem
      exact (mem_observersOf _ _).mpr ⟨sighting, found, listed⟩
    · change time < now + lag
      omega
  · exact ⟨sighting, by rw [see_other _ _ _ _ _ same]; exact found, listed, recent⟩

omit [DecidableEq K] [DecidableEq E] in
theorem tracks_expire (lag : Nat) (board : Board K E) (key : K) (observer : E) (time : Nat)
    (tracks : Tracks lag board key observer time) (now maxAge : Nat) (young : now - time + lag ≤ maxAge) :
    Tracks lag (board.expire now maxAge) key observer time := by
  obtain ⟨sighting, found, listed, recent⟩ := tracks
  refine ⟨sighting, (expire_eq_some ..).mpr ⟨found, ?_⟩, listed, recent⟩
  omega

theorem tracks_apply (lag : Nat) (positive : 0 < lag) (board : Board K E) (key : K) (observer : E) (time : Nat)
    (tracks : Tracks lag board key observer time) (event : Option (Event K E))
    (later : ∀ other reporter now, event = some (.seen other reporter now) → time ≤ now)
    (young : ∀ now maxAge, event = some (.expire now maxAge) → now - time + lag ≤ maxAge) :
    Tracks lag (board.apply event) key observer time := by
  rcases event with _ | ⟨other, reporter, now⟩ | ⟨now, maxAge⟩
  · exact tracks
  · exact tracks_see lag positive board key observer time tracks other reporter now (later other reporter now rfl)
  · exact tracks_expire lag board key observer time tracks now maxAge (young now maxAge rfl)

def Board.listing (board : Board K E) (key : K) : Option (Finset E) := (board key).map Sighting.observers

omit [DecidableEq K] [DecidableEq E] in
theorem isSome_listing (board : Board K E) (key : K) : (board.listing key).isSome = (board key).isSome :=
  Option.isSome_map

omit [DecidableEq K] [DecidableEq E] in
theorem getD_listing (board : Board K E) (key : K) : (board.listing key).getD ∅ = observersOf (board key) := by
  cases found : board key <;> simp [Board.listing, observersOf, found]

omit [DecidableEq K] [DecidableEq E] in
theorem listing_ext (board other : Board K E) (present : ∀ key, (board key).isSome = (other key).isSome)
    (observers : ∀ key, observersOf (board key) = observersOf (other key)) : board.listing = other.listing := by
  funext key
  have same := present key
  have listed := observers key
  rw [Board.listing, Board.listing]
  cases found : board key <;> cases found' : other key <;> simp_all [observersOf]

theorem apply_lists (board : Board K E) (event : Option (Event K E))
    (lasting : ∀ now maxAge, event ≠ some (.expire now maxAge)) (key : K) :
    ((board.apply event key).isSome ↔
      (board key).isSome ∨ ∃ observer now, event = some (.seen key observer now)) ∧
    ∀ observer, observer ∈ observersOf (board.apply event key) ↔
      observer ∈ observersOf (board key) ∨ ∃ now, event = some (.seen key observer now) := by
  rcases event with _ | ⟨other, reporter, now⟩ | ⟨now, maxAge⟩
  · simp [Board.apply]
  · change ((board.see other reporter now key).isSome ↔ _) ∧
      ∀ observer, observer ∈ observersOf (board.see other reporter now key) ↔ _
    by_cases same : key = other
    · subst same
      rw [see_same]
      constructor
      · simp
      · intro observer
        rw [observersOf, Finset.mem_insert, or_comm]
        simp [eq_comm]
    · rw [see_other _ _ _ _ _ same]
      simp [Ne.symm same]
  · exact absurd rfl (lasting now maxAge)

def Lasting (view : Op → Option (Event K E)) (ops : List Op) : Prop :=
  ∀ op ∈ ops, ∀ now maxAge, view op ≠ some (.expire now maxAge)

def Reports (view : Op → Option (Event K E)) (ops : List Op) (key : K) (observer : E) : Prop :=
  ∃ op ∈ ops, ∃ now, view op = some (.seen key observer now)

theorem foldl_lists (view : Op → Option (Event K E)) (ops : List Op) (lasting : Lasting view ops) (board : Board K E)
    (key : K) :
    let later := ops.foldl (fun board op => board.apply (view op)) board
    ((later key).isSome ↔ (board key).isSome ∨ ∃ observer, Reports view ops key observer) ∧
    ∀ observer, observer ∈ observersOf (later key) ↔
      observer ∈ observersOf (board key) ∨ Reports view ops key observer := by
  induction ops generalizing board with
  | nil => simp [Reports]
  | cons op rest ih =>
    obtain ⟨present, listed⟩ := apply_lists board (view op) (lasting op (by simp)) key
    obtain ⟨presentLater, listedLater⟩ :=
      ih (fun later member => lasting later (List.mem_cons_of_mem op member)) (board.apply (view op))
    simp only [List.foldl_cons, Reports, List.mem_cons, exists_eq_or_imp] at *
    constructor
    · rw [presentLater, present, or_assoc, exists_or]
    · intro observer
      rw [listedLater, listed, or_assoc]

theorem foldl_listing (view : Op → Option (Event K E)) (first second : List Op) (lasting : Lasting view first)
    (lasting' : Lasting view second) (board : Board K E)
    (covered : ∀ key observer, Reports view first key observer → Reports view second key observer)
    (listed : ∀ key observer, Reports view second key observer →
      observer ∈ observersOf (first.foldl (fun board op => board.apply (view op)) board key)) :
    Board.listing (first.foldl (fun board op => board.apply (view op)) board) =
      Board.listing (second.foldl (fun board op => board.apply (view op)) board) := by
  have inFirst := foldl_lists view first lasting board
  have inSecond := foldl_lists view second lasting' board
  apply listing_ext
  · intro key
    rw [Bool.eq_iff_iff]
    constructor
    · intro present
      rw [(inSecond key).1]
      exact ((inFirst key).1.mp present).imp_right fun ⟨observer, reported⟩ => ⟨observer, covered key observer reported⟩
    · intro present
      cases (inSecond key).1.mp present with
      | inl before => exact (inFirst key).1.mpr (.inl before)
      | inr later =>
        obtain ⟨observer, reported⟩ := later
        obtain ⟨sighting, found, _⟩ := (mem_observersOf _ _).mp (listed key observer reported)
        rw [found]
        rfl
  · intro key
    ext observer
    constructor
    · intro member
      exact ((inSecond key).2 observer).mpr ((((inFirst key).2 observer).mp member).imp_right (covered key observer))
    · intro member
      cases ((inSecond key).2 observer).mp member with
      | inl before => exact ((inFirst key).2 observer).mpr (.inl before)
      | inr later => exact listed key observer later

end Sightings
