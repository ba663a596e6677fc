import Mathlib.Data.List.TakeWhile
import MavRouter.Routing.Table
import MavRouter.Shared.Runs

set_option autoImplicit false

namespace MavRouter.Orchestration

open Routing

structure StatsHistory where
  samples : List RoutingStats
  maxAgeSecs : Nat

namespace StatsHistory

def new (maxAgeSecs : Nat) : StatsHistory := { samples := [], maxAgeSecs }

-- The loop pops from the front and breaks at the first sample that is young enough.
def push (history : StatsHistory) (stats : RoutingStats) : StatsHistory :=
  let samples := history.samples ++ [stats]
  match samples.getLast? with
  | none => { history with samples }
  | some latest =>
    let cutoff := latest.timestamp - history.maxAgeSecs
    { history with samples := samples.dropWhile fun oldest => decide (oldest.timestamp < cutoff) }

def pushAll (history : StatsHistory) (samples : List RoutingStats) : StatsHistory := samples.foldl push history

end StatsHistory

def Expired (maxAgeSecs : Nat) (latest sample : RoutingStats) : Prop :=
  sample.timestamp < latest.timestamp - maxAgeSecs

instance (maxAgeSecs : Nat) (latest sample : RoutingStats) : Decidable (Expired maxAgeSecs latest sample) :=
  inferInstanceAs (Decidable (_ < _))

def RetentionBounded (maxAgeSecs : Nat) (samples : List RoutingStats) : Prop :=
  ∀ past latest, past ++ [latest] <+: samples →
    ∀ sample ∈ ((StatsHistory.new maxAgeSecs).pushAll (past ++ [latest])).samples, ¬Expired maxAgeSecs latest sample

-- A sample that shields expired ones behind it from a push has itself expired at an earlier one.
def NothingShielded (maxAgeSecs : Nat) (samples : List RoutingStats) : Prop :=
  ∀ past first behind latest, past ++ first :: behind ++ [latest] <+: samples → ¬Expired maxAgeSecs latest first →
    (∃ old ∈ behind, Expired maxAgeSecs latest old) → ∃ earlier ∈ behind, Expired maxAgeSecs earlier first

namespace StatsHistory

theorem push_samples (history : StatsHistory) (stats : RoutingStats) :
    (history.push stats).samples =
      (history.samples ++ [stats]).dropWhile fun oldest => decide (Expired history.maxAgeSecs stats oldest) := by
  rw [push, List.getLast?_concat]
  rfl

theorem pushAll_maxAgeSecs (history : StatsHistory) (samples : List RoutingStats) :
    (history.pushAll samples).maxAgeSecs = history.maxAgeSecs := by
  induction samples generalizing history with
  | nil => rfl
  | cons stats rest ih =>
    rw [pushAll, List.foldl_cons]
    refine (ih (history.push stats)).trans ?_
    rw [push, List.getLast?_concat]

theorem pushAll_concat (maxAgeSecs : Nat) (past : List RoutingStats) (latest : RoutingStats) :
    ((new maxAgeSecs).pushAll (past ++ [latest])).samples =
      (((new maxAgeSecs).pushAll past).samples ++ [latest]).dropWhile
        fun oldest => decide (Expired maxAgeSecs latest oldest) := by
  have same : ((new maxAgeSecs).pushAll past).maxAgeSecs = maxAgeSecs := pushAll_maxAgeSecs (new maxAgeSecs) past
  rw [show (new maxAgeSecs).pushAll (past ++ [latest]) = ((new maxAgeSecs).pushAll past).push latest from
    List.foldl_concat .., push_samples, same]

end StatsHistory

theorem not_expired_itself (maxAgeSecs : Nat) (stats : RoutingStats) : ¬Expired maxAgeSecs stats stats := by
  unfold Expired
  omega

theorem dropWhile_shielded {A : Type} (p : A → Bool) (front rest : List A) (x : A) (stops : p x = false) :
    ∃ front', (front ++ x :: rest).dropWhile p = front' ++ x :: rest := by
  induction front with
  | nil => exact ⟨[], by simp [stops]⟩
  | cons first front ih =>
    by_cases dropped : p first = true
    · obtain ⟨front', same⟩ := ih
      exact ⟨front', by rw [List.cons_append, List.dropWhile_cons_of_pos dropped, same]⟩
    · exact ⟨first :: front, by rw [List.cons_append, List.dropWhile_cons_of_neg dropped]⟩

structure Popped (maxAgeSecs : Nat) (past gone kept : List RoutingStats) : Prop where
  split : past = gone ++ kept
  expired : ∀ older first newer, gone = older ++ first :: newer →
    ∃ later ∈ newer ++ kept, Expired maxAgeSecs later first

theorem popped (maxAgeSecs : Nat) (past : List RoutingStats) :
    ∃ gone, Popped maxAgeSecs past gone ((StatsHistory.new maxAgeSecs).pushAll past).samples := by
  induction past using List.reverseRecOn with
  | nil => exact ⟨[], rfl, by intro older first newer split; simp at split⟩
  | append_singleton past latest ih =>
    obtain ⟨gone, split, expired⟩ := ih
    rw [StatsHistory.pushAll_concat]
    generalize ((StatsHistory.new maxAgeSecs).pushAll past).samples = kept at split expired
    let old := fun oldest => decide (Expired maxAgeSecs latest oldest)
    have halves : (kept ++ [latest]).takeWhile old ++ (kept ++ [latest]).dropWhile old = kept ++ [latest] :=
      List.takeWhile_append_dropWhile
    have last : latest ∈ (kept ++ [latest]).dropWhile old := by
      obtain ⟨front, same⟩ := dropWhile_shielded old kept [] latest
        (decide_eq_false (not_expired_itself maxAgeSecs latest))
      simp [same]
    have aged : ∀ sample ∈ (kept ++ [latest]).takeWhile old, Expired maxAgeSecs latest sample :=
      fun sample member => of_decide_eq_true (List.mem_takeWhile_imp (p := old) member)
    change ∃ gone, Popped maxAgeSecs (past ++ [latest]) gone ((kept ++ [latest]).dropWhile old)
    generalize (kept ++ [latest]).takeWhile old = taken at halves aged
    generalize (kept ++ [latest]).dropWhile old = left at halves last
    refine ⟨gone ++ taken, by rw [List.append_assoc, halves, split, List.append_assoc], ?_⟩
    intro older first newer split'
    have inTaken (member : first ∈ taken) : ∃ later ∈ newer ++ left, Expired maxAgeSecs later first :=
      ⟨latest, List.mem_append_right _ last, aged first member⟩
    rcases List.append_eq_append_iff.mp split' with ⟨more, rfl, rest⟩ | ⟨more, rest, same⟩
    · exact inTaken (by simp [rest])
    · cases more with
      | nil =>
        rw [List.nil_append] at same
        exact inTaken (by simp [← same])
      | cons head more =>
        rw [List.cons_append, List.cons.injEq] at same
        obtain ⟨rfl, rfl⟩ := same
        obtain ⟨later, member, gone⟩ := expired older first more rest
        refine ⟨later, ?_, gone⟩
        rw [List.append_assoc, halves, ← List.append_assoc]
        exact List.mem_append_left _ member

theorem nothingShielded_of_bounded (maxAgeSecs : Nat) (samples : List RoutingStats)
    (bounded : RetentionBounded maxAgeSecs samples) : NothingShielded maxAgeSecs samples := by
  intro past first behind latest inside young hidden
  obtain ⟨old, member, aged⟩ := hidden
  obtain ⟨gone, split, expired⟩ := popped maxAgeSecs (past ++ first :: behind)
  have retained := bounded (past ++ first :: behind) latest inside
  rw [StatsHistory.pushAll_concat] at retained
  generalize ((StatsHistory.new maxAgeSecs).pushAll (past ++ first :: behind)).samples = kept at split expired retained
  -- Had the first one still been there, it would have kept the expired one from being popped.
  have still (front : List RoutingStats) (same : kept = front ++ first :: behind) : False := by
    rw [same, List.append_assoc, List.cons_append] at retained
    obtain ⟨front', shielded⟩ := dropWhile_shielded (fun oldest => decide (Expired maxAgeSecs latest oldest)) front
      (behind ++ [latest]) first (decide_eq_false young)
    rw [shielded] at retained
    exact retained old (by simp [member]) aged
  rcases List.append_eq_append_iff.mp split with ⟨more, rest, same⟩ | ⟨more, rest, same⟩
  · cases more with
    | nil => exact (still [] same.symm).elim
    | cons head more =>
      cases same
      exact expired past first more rest
  · exact (still more same).elim

def AllYoung (maxAgeSecs : Nat) (kept : List RoutingStats) : Prop :=
  kept.Pairwise fun sample later => ¬Expired maxAgeSecs later sample

theorem push_allYoung (maxAgeSecs : Nat) (kept : List RoutingStats) (latest : RoutingStats)
    (young : AllYoung maxAgeSecs kept)
    (shielded : ∀ front first behind, kept = front ++ first :: behind → ¬Expired maxAgeSecs latest first →
      (∃ old ∈ behind, Expired maxAgeSecs latest old) → ∃ earlier ∈ behind, Expired maxAgeSecs earlier first) :
    AllYoung maxAgeSecs ((kept ++ [latest]).dropWhile fun oldest => decide (Expired maxAgeSecs latest oldest)) := by
  let old := fun oldest => decide (Expired maxAgeSecs latest oldest)
  have itself : old latest = false := decide_eq_false (not_expired_itself maxAgeSecs latest)
  have stopped := List.head?_dropWhile_not old kept
  have split : kept.takeWhile old ++ kept.dropWhile old = kept := List.takeWhile_append_dropWhile
  change AllYoung maxAgeSecs ((kept ++ [latest]).dropWhile old)
  rw [List.dropWhile_append]
  cases left : kept.dropWhile old with
  | nil => simp [itself, AllYoung]
  | cons first behind =>
    rw [left] at stopped split
    have fresh : ¬Expired maxAgeSecs latest first := of_decide_eq_false stopped
    have pairs : (first :: behind).Pairwise fun sample later => ¬Expired maxAgeSecs later sample :=
      young.sublist (split ▸ List.sublist_append_right _ _)
    simp only [List.isEmpty_cons, Bool.false_eq_true, if_false]
    apply List.pairwise_append.mpr
    refine ⟨pairs, List.pairwise_singleton _ _, ?_⟩
    intro sample member later last
    rw [List.mem_singleton] at last
    subst last
    rcases List.mem_cons.mp member with rfl | inside
    · exact fresh
    · intro aged
      obtain ⟨earlier, between, expired⟩ := shielded _ first behind split.symm fresh ⟨sample, inside, aged⟩
      exact (List.pairwise_cons.mp pairs).1 earlier between expired

theorem allYoung_of_nothingShielded (maxAgeSecs : Nat) (samples : List RoutingStats)
    (unshielded : NothingShielded maxAgeSecs samples) (past : List RoutingStats) (inside : past <+: samples) :
    AllYoung maxAgeSecs ((StatsHistory.new maxAgeSecs).pushAll past).samples := by
  induction past using List.reverseRecOn with
  | nil => exact List.Pairwise.nil
  | append_singleton past latest ih =>
    have young := ih ((List.prefix_append past [latest]).trans inside)
    obtain ⟨gone, split, _⟩ := popped maxAgeSecs past
    rw [StatsHistory.pushAll_concat]
    apply push_allYoung maxAgeSecs _ latest young
    intro front first behind same
    apply unshielded (gone ++ front) first behind latest
    rw [List.append_assoc gone, ← same, ← split]
    exact inside

theorem retention_bounded (maxAgeSecs : Nat) (samples : List RoutingStats) :
    RetentionBounded maxAgeSecs samples ↔ NothingShielded maxAgeSecs samples := by
  refine ⟨nothingShielded_of_bounded maxAgeSecs samples, ?_⟩
  intro unshielded past latest inside sample member
  have young := allYoung_of_nothingShielded maxAgeSecs samples unshielded _ inside
  rw [StatsHistory.pushAll_concat] at member young
  obtain ⟨front, same⟩ := dropWhile_shielded (fun oldest => decide (Expired maxAgeSecs latest oldest))
    ((StatsHistory.new maxAgeSecs).pushAll past).samples [] latest
    (decide_eq_false (not_expired_itself maxAgeSecs latest))
  rw [same] at member young
  rcases List.mem_append.mp member with earlier | last
  · exact (List.pairwise_append.mp young).2.2 sample earlier latest (List.mem_singleton_self latest)
  · rw [List.mem_singleton.mp last]
    exact not_expired_itself maxAgeSecs latest

def sampleAt (timestamp : Nat) : RoutingStats := { totalSystems := 1, totalRoutes := 1, totalEndpoints := 1, timestamp }

-- The clock steps back by 50 s and forward again.
theorem stepped_clock_retains :
    ((StatsHistory.new 10).pushAll [sampleAt 100, sampleAt 50, sampleAt 105]).samples =
      [sampleAt 100, sampleAt 50, sampleAt 105] ∧
    ¬RetentionBounded 10 [sampleAt 100, sampleAt 50, sampleAt 105] := by
  have retained : ((StatsHistory.new 10).pushAll [sampleAt 100, sampleAt 50, sampleAt 105]).samples =
      [sampleAt 100, sampleAt 50, sampleAt 105] := by decide
  refine ⟨retained, ?_⟩
  intro bounded
  exact bounded [sampleAt 100, sampleAt 50] (sampleAt 105) (List.prefix_refl _) (sampleAt 50)
    (by rw [List.cons_append, List.cons_append, List.nil_append, retained]; simp) (by decide)

end MavRouter.Orchestration
