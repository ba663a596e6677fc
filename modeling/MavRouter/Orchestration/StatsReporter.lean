import MavRouter.Ingress.Core
import MavRouter.Orchestration.Aggregate
import MavRouter.Orchestration.Registration
import MavRouter.Routing.Listing

set_option autoImplicit false

namespace MavRouter.Orchestration

open Ingress Routing Runs Search

structure Tick where
  routingTable : RoutingTable
  -- None for a clock before the epoch.
  sinceEpoch : Option Nat
  endpointStats : List (EndpointId × String × EndpointStats)
  -- Where the ring buffer of the history wraps.
  wrap : Nat

def Tick.time (tick : Tick) : Nat := tick.sinceEpoch.getD 0

def Tick.stats (tick : Tick) : RoutingStats := tick.routingTable.stats tick.time

structure StatsReport (F : Type) where
  time : Nat
  min1 : Option (AggregatedStats F)
  hour1 : Option (AggregatedStats F)
  all : Option (AggregatedStats F)
  totalSystems : Nat
  totalEndpoints : Nat
  endpoints : List (EndpointId × String × EndpointStats)

structure StatsReporter where
  history : StatsHistory
  lastLogTime : Nat

namespace StatsReporter

variable {F : Type} (divide : Nat → Nat → F) (retention logInterval : Nat)

def start : StatsReporter where
  history := .new retention
  lastLogTime := 0

def due (s : StatsReporter) (tick : Tick) : Bool := decide (logInterval ≤ tick.time - s.lastLogTime)

def report (s : StatsReporter) (tick : Tick) : Option (StatsReport F) :=
  let history := s.history.push tick.stats
  if s.due logInterval tick then
    some
      { time := tick.time
        min1 := history.aggregate divide tick.wrap 60
        hour1 := history.aggregate divide tick.wrap 3600
        all := history.aggregate divide tick.wrap retention
        totalSystems := tick.stats.totalSystems
        totalEndpoints := tick.stats.totalEndpoints
        endpoints := tick.endpointStats }
  else none

def step (s : StatsReporter) (tick : Tick) : StatsReporter where
  history := s.history.push tick.stats
  lastLogTime := if s.due logInterval tick then tick.time else s.lastLogTime

-- Between two turns it may be cancelled, so every list of turns is a run.
def run (ticks : List Tick) : StatsReporter := ticks.foldl (step logInterval) (start retention)

def log (ticks : List Tick) : List (StatsReport F) :=
  (trace (report divide retention logInterval) (step logInterval) (start retention) ticks).filterMap id

end StatsReporter

section Log

variable {F : Type} (divide : Nat → Nat → F) (retention logInterval : Nat)

theorem log_tick (ticks : List Tick) (tick : Tick) :
    StatsReporter.log divide retention logInterval (ticks ++ [tick]) =
      StatsReporter.log divide retention logInterval ticks ++
        ((StatsReporter.run retention logInterval ticks).report divide retention logInterval tick).toList := by
  rw [StatsReporter.log, StatsReporter.log, trace_append, List.filterMap_append, trace, trace, StatsReporter.run]
  cases StatsReporter.report divide retention logInterval _ tick <;> rfl

theorem report_time (s : StatsReporter) (tick : Tick) (report : StatsReport F)
    (reported : s.report divide retention logInterval tick = some report) :
    report.time = tick.time ∧ s.due logInterval tick = true := by
  rw [StatsReporter.report] at reported
  split_ifs at reported with due
  cases reported
  exact ⟨rfl, due⟩

theorem report_isSome (s : StatsReporter) (tick : Tick) :
    (s.report divide retention logInterval tick).isSome = s.due logInterval tick := by
  rw [StatsReporter.report]
  cases s.due logInterval tick <;> rfl

structure Spaced (reports : List (StatsReport F)) (s : StatsReporter) : Prop where
  apart : reports.Pairwise fun earlier later => earlier.time + logInterval ≤ later.time
  behind : ∀ report ∈ reports, report.time ≤ s.lastLogTime
  last : s.lastLogTime = 0 ∨ ∃ report ∈ reports, report.time = s.lastLogTime

variable {logInterval}

theorem Spaced.due (positive : 0 < logInterval) {reports : List (StatsReport F)} {s : StatsReporter}
    (spaced : Spaced logInterval reports s) (tick : Tick) :
    s.due logInterval tick = true ↔
      logInterval ≤ tick.time ∧ ∀ report ∈ reports, report.time + logInterval ≤ tick.time := by
  rw [StatsReporter.due, decide_eq_true_iff]
  constructor
  · intro elapsed
    refine ⟨by omega, ?_⟩
    intro report member
    have behind := spaced.behind report member
    omega
  · rintro ⟨begun, each⟩
    rcases spaced.last with fresh | ⟨report, member, same⟩
    · omega
    · have elapsed := each report member
      omega

theorem Spaced.step (positive : 0 < logInterval) {reports : List (StatsReport F)} {s : StatsReporter}
    (spaced : Spaced logInterval reports s) (tick : Tick) :
    Spaced logInterval (reports ++ (s.report divide retention logInterval tick).toList)
      (s.step logInterval tick) := by
  cases reported : s.report divide retention logInterval tick with
  | none =>
    have early : s.due logInterval tick = false := by
      rw [← report_isSome divide retention logInterval, reported]
      rfl
    simpa [StatsReporter.step, early] using ⟨spaced.apart, spaced.behind, spaced.last⟩
  | some report =>
    obtain ⟨time, due⟩ := report_time divide retention logInterval s tick report reported
    obtain ⟨_, elapsed⟩ := (spaced.due positive tick).mp due
    have latest : (s.step logInterval tick).lastLogTime = tick.time := by rw [StatsReporter.step, due, if_pos rfl]
    constructor
    · rw [Option.toList_some, List.pairwise_append]
      refine ⟨spaced.apart, List.pairwise_singleton .., ?_⟩
      intro earlier member later here
      rw [List.mem_singleton.mp here, time]
      exact elapsed earlier member
    · intro earlier member
      rw [latest]
      rcases List.mem_append.mp member with old | new
      · exact Nat.le_of_add_right_le (elapsed earlier old)
      · rw [List.mem_singleton.mp new, time]
    · exact .inr ⟨report, by simp, time.trans latest.symm⟩

theorem log_spaced (positive : 0 < logInterval) (ticks : List Tick) :
    Spaced logInterval (StatsReporter.log divide retention logInterval ticks)
      (StatsReporter.run retention logInterval ticks) := by
  apply run_history (StatsReporter.step logInterval) (.start retention)
    (fun ticks s => Spaced logInterval (StatsReporter.log divide retention logInterval ticks) s)
  · constructor <;> simp [StatsReporter.log, trace, StatsReporter.start]
  · intro ticks tick spaced
    rw [log_tick]
    exact spaced.step divide retention positive tick

theorem reports_spaced (positive : 0 < logInterval) (ticks : List Tick) :
    ((StatsReporter.log divide retention logInterval ticks).Pairwise fun earlier later =>
      earlier.time + logInterval ≤ later.time) ∧
    ∀ older tick newer, ticks = older ++ tick :: newer →
      (((StatsReporter.run retention logInterval older).report divide retention logInterval tick).isSome ↔
        logInterval ≤ tick.time ∧
          ∀ report ∈ StatsReporter.log divide retention logInterval older, report.time + logInterval ≤ tick.time) := by
  refine ⟨(log_spaced divide retention positive ticks).apart, ?_⟩
  intro older tick newer _
  rw [report_isSome]
  exact (log_spaced divide retention positive older).due positive tick

def steppedBack : List Tick :=
  [⟨RoutingTable.new, some 100, [], 8⟩, ⟨RoutingTable.new, some 70, [], 8⟩, ⟨RoutingTable.new, some 110, [], 8⟩,
    ⟨RoutingTable.new, some 130, [], 8⟩]

theorem reports_spaced_stepped_back : ((StatsReporter.run 3600 30 (steppedBack.take 2)).report Prod.mk 3600 30
    ⟨RoutingTable.new, some 110, [], 8⟩).isSome = false := by
  rw [← Bool.not_eq_true, (reports_spaced Prod.mk 3600 (by decide : 0 < 30) steppedBack).2 (steppedBack.take 2) _ _ rfl]
  decide +kernel

theorem run_retained (ticks : List Tick) :
    (StatsReporter.run retention logInterval ticks).history =
      (StatsHistory.new retention).pushAll (ticks.map Tick.stats) := by
  apply run_history (StatsReporter.step logInterval) (.start retention)
    (fun ticks s => s.history = (StatsHistory.new retention).pushAll (ticks.map Tick.stats))
  · rfl
  · intro ticks tick retained
    rw [StatsReporter.step, retained, List.map_append, List.map_singleton, StatsHistory.pushAll, StatsHistory.pushAll,
      List.foldl_concat]

end Log

theorem totalRoutes_bounded (tick : Tick) (reached : WellFormed tick.routingTable) :
    tick.stats.totalRoutes ≤ 65536 := by
  have bound : (Routing.abs tick.routingTable).totalRoutes ≤ Fintype.card (UInt8 × UInt8) := Finset.card_le_univ _
  have same : tick.stats.totalRoutes = (Routing.abs tick.routingTable).totalRoutes := by
    rw [Tick.stats, stats_exact _ reached]
  rw [Fintype.card_prod, card_byte] at bound
  omega

theorem totalRoutes_fit (ticks : List Tick) (reached : ∀ tick ∈ ticks, WellFormed tick.routingTable) :
    ((ticks.map Tick.stats).map RoutingStats.totalRoutes).sum ≤ ticks.length * 65536 := by
  induction ticks with
  | nil => exact Nat.le_refl _
  | cons tick rest ih =>
    have first := totalRoutes_bounded tick (reached tick List.mem_cons_self)
    have others := ih fun other member => reached other (List.mem_cons_of_mem _ member)
    simp only [List.map_cons, List.sum_cons, List.length_cons]
    omega

theorem retained_young (maxAgeSecs : Nat) (past : List RoutingStats) (latest : RoutingStats)
    (ordered : InOrder (past ++ [latest])) (sample : RoutingStats)
    (member : sample ∈ ((StatsHistory.new maxAgeSecs).pushAll (past ++ [latest])).samples) :
    latest.timestamp - maxAgeSecs ≤ sample.timestamp := by
  obtain ⟨gone, split, _⟩ := popped maxAgeSecs past
  rw [StatsHistory.pushAll_concat] at member
  generalize ((StatsHistory.new maxAgeSecs).pushAll past).samples = kept at split member
  rw [split, List.append_assoc] at ordered
  have sorted : InOrder (kept ++ [latest]) := (List.pairwise_append.mp ordered).2.1
  rw [← filter_eq_dropWhile] at member
  · have young : ¬Expired maxAgeSecs latest sample := by simpa using (List.mem_filter.mp member).2
    exact Nat.le_of_not_lt young
  · exact sorted.imp fun earlier aged => decide_eq_true (Nat.lt_of_le_of_lt earlier (of_decide_eq_true aged))

theorem aggregate_retained {F : Type} (divide : Nat → Nat → F) (wrap maxAgeSecs windowSecs : Nat)
    (past : List RoutingStats) (latest : RoutingStats) (ordered : InOrder (past ++ [latest]))
    (fits : ((past ++ [latest]).map RoutingStats.totalRoutes).sum ≤ usizeMax) :
    ∃ stats, ((StatsHistory.new maxAgeSecs).pushAll (past ++ [latest])).aggregate divide wrap windowSecs = some stats ∧
      Summarizes divide (inWindow (latest.timestamp - min windowSecs maxAgeSecs) (past ++ [latest])) stats := by
  have young := retained_young maxAgeSecs past latest ordered
  obtain ⟨gone, split, _⟩ := popped maxAgeSecs (past ++ [latest])
  have last : ((StatsHistory.new maxAgeSecs).pushAll (past ++ [latest])).samples.getLast? = some latest := by
    obtain ⟨front, same⟩ := dropWhile_shielded (fun oldest => decide (Expired maxAgeSecs latest oldest))
      ((StatsHistory.new maxAgeSecs).pushAll past).samples [] latest
      (decide_eq_false (not_expired_itself maxAgeSecs latest))
    rw [StatsHistory.pushAll_concat, same, List.getLast?_concat]
  have scanned := pushAll_inWindow maxAgeSecs (min windowSecs maxAgeSecs) (past ++ [latest]) latest ordered
    (Nat.min_le_right _ _) last
  have sorted : InOrder ((StatsHistory.new maxAgeSecs).pushAll (past ++ [latest])).samples := by
    rw [split] at ordered
    exact ordered.sublist (List.sublist_append_right _ _)
  have part : (((StatsHistory.new maxAgeSecs).pushAll (past ++ [latest])).samples.map
      RoutingStats.totalRoutes).sum ≤ usizeMax := by
    rw [split, List.map_append, List.sum_append_nat] at fits
    omega
  obtain ⟨stats, found, summarized⟩ := StatsHistory.aggregate_eq divide wrap windowSecs _ latest last sorted part
  refine ⟨stats, found, ?_⟩
  rw [← scanned]
  have same : inWindow (latest.timestamp - windowSecs)
      ((StatsHistory.new maxAgeSecs).pushAll (past ++ [latest])).samples =
      inWindow (latest.timestamp - min windowSecs maxAgeSecs)
        ((StatsHistory.new maxAgeSecs).pushAll (past ++ [latest])).samples := by
    apply List.filter_congr
    intro sample member
    have bound := young sample member
    rw [decide_eq_decide]
    omega
  rwa [same] at summarized

/-- A report is about the samples of its windows, as far as they are retained, and about the table as it is. -/
structure Reports {F : Type} (divide : Nat → Nat → F) (retention : Nat) (taken : List Tick) (tick : Tick)
    (report : StatsReport F) : Prop where
  min1 : ∃ stats, report.min1 = some stats ∧
    Summarizes divide (inWindow (tick.time - min 60 retention) (taken.map Tick.stats)) stats
  hour1 : ∃ stats, report.hour1 = some stats ∧
    Summarizes divide (inWindow (tick.time - min 3600 retention) (taken.map Tick.stats)) stats
  all : ∃ stats, report.all = some stats ∧
    Summarizes divide (inWindow (tick.time - retention) (taken.map Tick.stats)) stats
  systems : report.totalSystems = (Routing.abs tick.routingTable).totalSystems
  endpoints : report.totalEndpoints = (Routing.abs tick.routingTable).endpoints.card

theorem reports_summarize {F : Type} (divide : Nat → Nat → F) (retention logInterval : Nat) (ticks : List Tick)
    (tick : Tick)
    (reached : ∀ taken ∈ ticks ++ [tick], ∃ config ops, taken.routingTable = (registeredTable config).run ops)
    (ordered : (ticks ++ [tick]).Pairwise fun older newer => older.time ≤ newer.time) (few : ticks.length < 2 ^ 47)
    (report : StatsReport F)
    (reported : (StatsReporter.run retention logInterval ticks).report divide retention logInterval tick =
      some report) :
    Reports divide retention (ticks ++ [tick]) tick report := by
  have wellFormed (taken : Tick) (member : taken ∈ ticks ++ [tick]) : WellFormed taken.routingTable := by
    obtain ⟨config, ops, same⟩ := reached taken member
    rw [same]
    exact table_run_wellFormed _ (registeredTable_wellFormed config) ops
  have sorted : InOrder ((ticks ++ [tick]).map Tick.stats) := List.pairwise_map.mpr ordered
  have fits : (((ticks ++ [tick]).map Tick.stats).map RoutingStats.totalRoutes).sum ≤ usizeMax := by
    refine Nat.le_trans (totalRoutes_fit (ticks ++ [tick]) wellFormed) ?_
    rw [List.length_append, List.length_singleton, usizeMax]
    omega
  have history : (StatsReporter.run retention logInterval ticks).history.push tick.stats =
      (StatsHistory.new retention).pushAll (ticks.map Tick.stats ++ [tick.stats]) := by
    rw [run_retained, StatsHistory.pushAll, StatsHistory.pushAll, List.foldl_concat]
  rw [List.map_append, List.map_singleton] at sorted fits
  have windows (windowSecs : Nat) := aggregate_retained divide tick.wrap retention windowSecs _ _ sorted fits
  have whole := windows retention
  rw [Nat.min_self] at whole
  have exact := stats_exact tick.routingTable (wellFormed tick (by simp)) tick.time
  rw [StatsReporter.report, history] at reported
  split_ifs at reported
  cases reported
  constructor
  · rw [List.map_append]
    exact windows 60
  · rw [List.map_append]
    exact windows 3600
  · rw [List.map_append]
    exact whole
  · rw [Tick.stats, exact]
  · rw [Tick.stats, exact]

theorem reports_summarize_minute : ∃ report,
    (StatsReporter.run 3600 30 [⟨RoutingTable.new, some 100, [], 8⟩]).report Prod.mk 3600 30
      ⟨RoutingTable.new.run [.update ⟨0⟩ 1 1 0 0], some 160, [], 8⟩ = some report ∧
    Reports Prod.mk 3600
      ([⟨RoutingTable.new, some 100, [], 8⟩] ++ [⟨RoutingTable.new.run [.update ⟨0⟩ 1 1 0 0], some 160, [], 8⟩])
      ⟨RoutingTable.new.run [.update ⟨0⟩ 1 1 0 0], some 160, [], 8⟩ report := by
  obtain ⟨report, reported⟩ := Option.isSome_iff_exists.mp (by decide +kernel :
    ((StatsReporter.run 3600 30 [⟨RoutingTable.new, some 100, [], 8⟩]).report Prod.mk 3600 30
      ⟨RoutingTable.new.run [.update ⟨0⟩ 1 1 0 0], some 160, [], 8⟩).isSome = true)
  refine ⟨report, reported, reports_summarize Prod.mk 3600 30 _ _ ?_ (by decide +kernel) (by decide) report reported⟩
  intro taken member
  rcases List.mem_append.mp member with old | new
  · exact ⟨{}, [], by rw [List.mem_singleton.mp old]; rfl⟩
  · exact ⟨{}, [.update ⟨0⟩ 1 1 0 0], by rw [List.mem_singleton.mp new]; rfl⟩

end MavRouter.Orchestration
