import Mathlib.Algebra.GroupWithZero.Nat
import MavRouter.Ingress.Dedup
import MavRouter.Orchestration.StatsHistory
import MavRouter.Shared.Search

set_option autoImplicit false

namespace MavRouter.Orchestration

open Ingress Routing Search

/-- What a window of samples comes down to; F stands for f64. -/
structure AggregatedStats (F : Type) where
  avgRoutes : F
  maxRoutes : Nat
  minRoutes : Nat
  sampleCount : Nat
  deriving DecidableEq, Repr

-- The sum, the minimum and the maximum so far; a sum that does not fit wraps around, as in a release build.
def accumulate (totals : Nat × Nat × Nat) (s : RoutingStats) : Nat × Nat × Nat :=
  (wrappingAdd totals.1 s.totalRoutes, min totals.2.1 s.totalRoutes, max totals.2.2 s.totalRoutes)

variable {F : Type}

-- Division is that of two numbers as f64, whatever it rounds to; wrap is where the ring buffer of the deque does.
def StatsHistory.aggregate (divide : Nat → Nat → F) (wrap : Nat) (history : StatsHistory) (windowSecs : Nat) :
    Option (AggregatedStats F) :=
  if history.samples.isEmpty then none
  else
    match history.samples.getLast? with
    | none => none
    | some latest =>
      let cutoff := latest.timestamp - windowSecs
      let startIdx := ringPartitionPoint (fun s => decide (s.timestamp < cutoff)) (history.samples.take wrap)
        (history.samples.drop wrap)
      if startIdx ≥ history.samples.length then none
      else
        let window := history.samples.drop startIdx
        let windowLen := history.samples.length - startIdx
        if windowLen = 0 then none
        else
          let totals := window.foldl accumulate (0, usizeMax, 0)
          if totals.2.2 = 0 ∧ totals.2.1 = usizeMax then none
          else
            some
              { avgRoutes := divide totals.1 windowLen
                maxRoutes := totals.2.2
                minRoutes := totals.2.1
                sampleCount := windowLen }

def inWindow (cutoff : Nat) (samples : List RoutingStats) : List RoutingStats :=
  samples.filter fun s => decide (cutoff ≤ s.timestamp)

theorem inWindow_append (cutoff : Nat) (older newer : List RoutingStats) :
    inWindow cutoff (older ++ newer) = inWindow cutoff older ++ inWindow cutoff newer :=
  List.filter_append ..

structure Summarizes (divide : Nat → Nat → F) (window : List RoutingStats) (stats : AggregatedStats F) : Prop where
  sampleCount : stats.sampleCount = window.length
  minRoutes : (window.map RoutingStats.totalRoutes).min? = some stats.minRoutes
  maxRoutes : (window.map RoutingStats.totalRoutes).max? = some stats.maxRoutes
  avgRoutes : stats.avgRoutes = divide (window.map RoutingStats.totalRoutes).sum window.length

def InOrder (samples : List RoutingStats) : Prop :=
  samples.Pairwise fun older newer => older.timestamp ≤ newer.timestamp

theorem foldl_accumulate (window : List RoutingStats) (sum least greatest : Nat)
    (fits : sum + (window.map RoutingStats.totalRoutes).sum ≤ usizeMax) :
    window.foldl accumulate (sum, least, greatest) =
      (sum + (window.map RoutingStats.totalRoutes).sum, (window.map RoutingStats.totalRoutes).foldl min least,
        (window.map RoutingStats.totalRoutes).foldl max greatest) := by
  induction window generalizing sum least greatest with
  | nil => rfl
  | cons s rest ih =>
    rw [List.map_cons, List.sum_cons] at fits
    have exact : wrappingAdd sum s.totalRoutes = sum + s.totalRoutes := Nat.mod_eq_of_lt (by omega)
    rw [List.foldl_cons, accumulate, exact, ih _ _ _ (by omega)]
    simp only [List.map_cons, List.sum_cons, List.foldl_cons, Nat.add_assoc]

theorem accumulate_summarizes (divide : Nat → Nat → F) (window : List RoutingStats) (filled : window ≠ [])
    (fits : (window.map RoutingStats.totalRoutes).sum ≤ usizeMax) :
    let totals := window.foldl accumulate (0, usizeMax, 0)
    ¬(totals.2.2 = 0 ∧ totals.2.1 = usizeMax) ∧
      Summarizes divide window
        { avgRoutes := divide totals.1 window.length, maxRoutes := totals.2.2, minRoutes := totals.2.1
          sampleCount := window.length } := by
  intro totals
  have folded : totals = _ := foldl_accumulate window 0 usizeMax 0 (by omega)
  cases window with
  | nil => exact absurd rfl filled
  | cons s rest =>
    rw [List.map_cons, List.sum_cons] at fits
    have least : ((s :: rest).map RoutingStats.totalRoutes).min? = some totals.2.1 := by
      rw [folded, List.map_cons, List.min?_cons', List.foldl_cons, Nat.min_eq_right (by omega)]
    have greatest : ((s :: rest).map RoutingStats.totalRoutes).max? = some totals.2.2 := by
      rw [folded, List.map_cons, List.max?_cons']
      simp only [List.foldl_cons, Nat.zero_max]
    refine ⟨?_, rfl, least, greatest, ?_⟩
    · rintro ⟨zero, untouched⟩
      have below := (List.min?_eq_some_iff.mp least).2 s.totalRoutes (by simp)
      have above := (List.max?_eq_some_iff.mp greatest).2 s.totalRoutes (by simp)
      rw [zero] at above
      rw [untouched] at below
      simp only [usizeMax] at below
      omega
    · rw [folded, Nat.zero_add]

theorem StatsHistory.aggregate_eq (divide : Nat → Nat → F) (wrap windowSecs : Nat) (history : StatsHistory)
    (latest : RoutingStats) (last : history.samples.getLast? = some latest) (ordered : InOrder history.samples)
    (fits : (history.samples.map RoutingStats.totalRoutes).sum ≤ usizeMax) :
    ∃ stats, history.aggregate divide wrap windowSecs = some stats ∧
      Summarizes divide (inWindow (latest.timestamp - windowSecs) history.samples) stats := by
  let cutoff := latest.timestamp - windowSecs
  let before := fun s : RoutingStats => decide (s.timestamp < cutoff)
  obtain ⟨past, split⟩ := List.getLast?_eq_some_iff.mp last
  have ring : history.samples.take wrap ++ history.samples.drop wrap = history.samples := List.take_append_drop _ _
  have monotone : history.samples.Pairwise fun older newer => before newer = true → before older = true := by
    refine ordered.imp fun {older newer} le lower => ?_
    simp only [before, decide_eq_true_eq] at lower ⊢
    omega
  have scanned : (fun s : RoutingStats => !before s) = fun s => decide (cutoff ≤ s.timestamp) := by
    funext s
    simp [before, ← decide_not]
  have searched := drop_ringPartitionPoint before (history.samples.take wrap) (history.samples.drop wrap)
    (by rw [ring]; exact monotone)
  rw [ring, scanned] at searched
  change history.samples.drop _ = inWindow cutoff history.samples at searched
  have youngest : latest ∈ inWindow cutoff history.samples := by
    rw [inWindow, List.mem_filter, split]
    simp only [List.mem_append, List.mem_singleton, or_true, true_and, decide_eq_true_eq]
    omega
  rw [StatsHistory.aggregate, if_neg (by simp [split]), last]
  simp only []
  change ∃ stats, (if ringPartitionPoint before _ _ ≥ _ then _ else _) = _ ∧ _
  generalize ringPartitionPoint before (history.samples.take wrap) (history.samples.drop wrap) = startIdx at searched
  have inside : startIdx < history.samples.length := by
    have filled := List.length_pos_of_mem (searched ▸ youngest)
    rw [List.length_drop] at filled
    omega
  have part : ((history.samples.drop startIdx).map RoutingStats.totalRoutes).sum ≤ usizeMax := by
    rw [← List.take_append_drop startIdx history.samples, List.map_append, List.sum_append_nat] at fits
    omega
  obtain ⟨counted, summarized⟩ := accumulate_summarizes divide (history.samples.drop startIdx)
    (List.ne_nil_of_mem (searched ▸ youngest)) part
  rw [List.length_drop, searched] at summarized
  rw [if_neg (by omega), if_neg (by omega)]
  rw [searched] at counted ⊢
  exact ⟨_, if_neg counted, summarized⟩

theorem InOrder.latest_last {past : List RoutingStats} {latest s : RoutingStats} (ordered : InOrder (past ++ [latest]))
    (member : s ∈ past ++ [latest]) : s.timestamp ≤ latest.timestamp := by
  rcases List.mem_append.mp member with earlier | last
  · exact (List.pairwise_append.mp ordered).2.2 s earlier latest (List.mem_singleton_self latest)
  · rw [List.mem_singleton.mp last]

-- A sample was popped for being older than one that is no younger than the latest.
theorem pushAll_inWindow (maxAgeSecs windowSecs : Nat) (samples : List RoutingStats) (latest : RoutingStats)
    (ordered : InOrder samples) (legal : windowSecs ≤ maxAgeSecs)
    (last : ((StatsHistory.new maxAgeSecs).pushAll samples).samples.getLast? = some latest) :
    inWindow (latest.timestamp - windowSecs) ((StatsHistory.new maxAgeSecs).pushAll samples).samples =
      inWindow (latest.timestamp - windowSecs) samples := by
  obtain ⟨gone, split, expired⟩ := popped maxAgeSecs samples
  generalize ((StatsHistory.new maxAgeSecs).pushAll samples).samples = kept at last split expired
  obtain ⟨front, rfl⟩ := List.getLast?_eq_some_iff.mp last
  rw [← List.append_assoc] at split
  rw [split] at ordered
  have outside : inWindow (latest.timestamp - windowSecs) gone = [] := by
    rw [inWindow, List.filter_eq_nil_iff]
    intro s member
    obtain ⟨older, newer, rfl⟩ := List.append_of_mem member
    obtain ⟨later, follows, aged⟩ := expired older s newer rfl
    have bound : later.timestamp ≤ latest.timestamp := by
      apply ordered.latest_last
      rw [List.append_assoc older]
      simp only [List.mem_append, List.mem_cons] at follows ⊢
      tauto
    simp only [Expired] at aged
    simp only [decide_eq_true_eq]
    omega
  rw [split, List.append_assoc, inWindow_append _ gone, outside, List.nil_append]

theorem aggregate_scans (divide : Nat → Nat → F) (wrap maxAgeSecs windowSecs : Nat) (samples : List RoutingStats)
    (ordered : InOrder samples) (fits : (samples.map RoutingStats.totalRoutes).sum ≤ usizeMax) :
    let history := (StatsHistory.new maxAgeSecs).pushAll samples
    (history.aggregate divide wrap windowSecs = none ↔ history.samples = []) ∧
    ∀ latest, history.samples.getLast? = some latest →
      ∃ stats, history.aggregate divide wrap windowSecs = some stats ∧
        Summarizes divide (inWindow (latest.timestamp - windowSecs) history.samples) stats ∧
        (windowSecs ≤ maxAgeSecs → Summarizes divide (inWindow (latest.timestamp - windowSecs) samples) stats) := by
  intro history
  obtain ⟨gone, split, -⟩ := popped maxAgeSecs samples
  change samples = gone ++ history.samples at split
  have retained : InOrder history.samples := by
    rw [split] at ordered
    exact ordered.sublist (List.sublist_append_right _ _)
  have part : (history.samples.map RoutingStats.totalRoutes).sum ≤ usizeMax := by
    rw [split, List.map_append, List.sum_append_nat] at fits
    omega
  have scanned (latest : RoutingStats) (last : history.samples.getLast? = some latest) :=
    history.aggregate_eq divide wrap windowSecs latest last retained part
  constructor
  · constructor
    · intro absent
      by_contra filled
      obtain ⟨stats, present, -⟩ := scanned _ (List.getLast?_eq_some_getLast filled)
      rw [absent] at present
      cases present
    · intro empty
      rw [StatsHistory.aggregate, empty, if_pos List.isEmpty_nil]
  · intro latest last
    obtain ⟨stats, found, summarized⟩ := scanned latest last
    refine ⟨stats, found, summarized, fun legal => ?_⟩
    rw [← pushAll_inWindow maxAgeSecs windowSecs samples latest ordered legal last]
    exact summarized

theorem aggregate_scans_duplicates :
    ∃ stats,
      ((StatsHistory.new 10).pushAll [sampleAt 100, sampleAt 105, sampleAt 105, sampleAt 112]).aggregate Prod.mk 2 7 =
        some stats ∧
      Summarizes Prod.mk [sampleAt 105, sampleAt 105, sampleAt 112] stats := by
  obtain ⟨-, scanned⟩ := aggregate_scans Prod.mk 2 10 7 [sampleAt 100, sampleAt 105, sampleAt 105, sampleAt 112]
    (by simp [InOrder, sampleAt]) (by decide)
  obtain ⟨stats, found, -, pushed⟩ := scanned (sampleAt 112) (by decide)
  exact ⟨stats, found, pushed (by decide)⟩

end MavRouter.Orchestration
