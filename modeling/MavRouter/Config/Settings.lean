import MavRouter.Error
import MavRouter.Ingress.Core

set_option autoImplicit false

namespace MavRouter

open Ingress

def defaultBusCapacity : UInt64 := 5000
def defaultRoutingTableTtlSecs : UInt64 := 300
def defaultRoutingTablePruneIntervalSecs : UInt64 := 60
def defaultStatsRetentionSecs : UInt64 := 86400
def defaultStatsSampleIntervalSecs : UInt64 := 1
def defaultStatsLogIntervalSecs : UInt64 := 60

structure GeneralConfig where
  tcpPort : Option UInt16 := none
  dedupPeriodMs : Option UInt64 := none
  log : Option String := none
  logTelemetry : Bool := false
  busCapacity : UInt64 := defaultBusCapacity
  routingTableTtlSecs : UInt64 := defaultRoutingTableTtlSecs
  routingTablePruneIntervalSecs : UInt64 := defaultRoutingTablePruneIntervalSecs
  statsRetentionSecs : UInt64 := defaultStatsRetentionSecs
  statsSampleIntervalSecs : UInt64 := defaultStatsSampleIntervalSecs
  statsLogIntervalSecs : UInt64 := defaultStatsLogIntervalSecs
  statsSocketPath : Option String := none
  snifferSysids : List UInt8 := []
  deriving DecidableEq, Repr

inductive EndpointMode where
  | client
  | server
  deriving DecidableEq, Repr

inductive FlowControl where
  | none
  | hardware
  | software
  deriving DecidableEq, Repr

inductive BaudRate where
  | fixed (rate : UInt32)
  | auto (rates : List UInt32)
  deriving DecidableEq, Repr

def BaudRate.rates : BaudRate → List UInt32
  | .fixed rate => [rate]
  | .auto rates => rates

inductive EndpointConfig where
  | udp (address : String) (mode : EndpointMode) (broadcastTimeoutSecs : UInt64) (filters : EndpointFilters)
      (group : Option String)
  | tcp (address : String) (mode : EndpointMode) (filters : EndpointFilters) (group : Option String)
  | serial (device : String) (baud : BaudRate) (flowControl : FlowControl) (filters : EndpointFilters)
      (group : Option String)

def EndpointConfig.filters : EndpointConfig → EndpointFilters
  | .udp _ _ _ filters _ => filters
  | .tcp _ _ filters _ => filters
  | .serial _ _ _ filters _ => filters

-- An empty name counts as no group.
def EndpointConfig.group (endpoint : EndpointConfig) : Option String :=
  let group :=
    match endpoint with
    | .udp _ _ _ _ group => group
    | .tcp _ _ _ group => group
    | .serial _ _ _ _ group => group
  group.filter fun g => !g.isEmpty

structure Config where
  general : GeneralConfig := {}
  endpoint : List EndpointConfig := []

namespace Config

def default : Config := {}

def merge (self other : Config) : Config where
  general :=
    { tcpPort := other.general.tcpPort.or self.general.tcpPort
      dedupPeriodMs := other.general.dedupPeriodMs.or self.general.dedupPeriodMs
      log := other.general.log.or self.general.log
      statsSocketPath := other.general.statsSocketPath.or self.general.statsSocketPath
      -- What is not optional is taken from the overlay, set there or not.
      logTelemetry := other.general.logTelemetry
      busCapacity := other.general.busCapacity
      routingTableTtlSecs := other.general.routingTableTtlSecs
      routingTablePruneIntervalSecs := other.general.routingTablePruneIntervalSecs
      statsRetentionSecs := other.general.statsRetentionSecs
      statsSampleIntervalSecs := other.general.statsSampleIntervalSecs
      statsLogIntervalSecs := other.general.statsLogIntervalSecs
      snifferSysids := other.general.snifferSysids }
  endpoint := self.endpoint ++ other.endpoint

theorem merge_assoc (a b c : Config) : (a.merge b).merge c = a.merge (b.merge c) := by
  simp [merge, Option.or_assoc]

instance : Std.Associative merge := ⟨merge_assoc⟩

theorem default_merge (config : Config) : default.merge config = config := by
  simp [merge, default]

structure LeavesDefaults (general : GeneralConfig) : Prop where
  logTelemetry : general.logTelemetry = false
  busCapacity : general.busCapacity = defaultBusCapacity
  routingTableTtlSecs : general.routingTableTtlSecs = defaultRoutingTableTtlSecs
  routingTablePruneIntervalSecs : general.routingTablePruneIntervalSecs = defaultRoutingTablePruneIntervalSecs
  statsRetentionSecs : general.statsRetentionSecs = defaultStatsRetentionSecs
  statsSampleIntervalSecs : general.statsSampleIntervalSecs = defaultStatsSampleIntervalSecs
  statsLogIntervalSecs : general.statsLogIntervalSecs = defaultStatsLogIntervalSecs
  snifferSysids : general.snifferSysids = []

theorem merge_default (config : Config) : config.merge default = config ↔ LeavesDefaults config.general := by
  obtain ⟨general, endpoint⟩ := config
  constructor
  · intro same
    have unchanged := congrArg Config.general same
    exact
      { logTelemetry := (congrArg GeneralConfig.logTelemetry unchanged).symm
        busCapacity := (congrArg GeneralConfig.busCapacity unchanged).symm
        routingTableTtlSecs := (congrArg GeneralConfig.routingTableTtlSecs unchanged).symm
        routingTablePruneIntervalSecs := (congrArg GeneralConfig.routingTablePruneIntervalSecs unchanged).symm
        statsRetentionSecs := (congrArg GeneralConfig.statsRetentionSecs unchanged).symm
        statsSampleIntervalSecs := (congrArg GeneralConfig.statsSampleIntervalSecs unchanged).symm
        statsLogIntervalSecs := (congrArg GeneralConfig.statsLogIntervalSecs unchanged).symm
        snifferSysids := (congrArg GeneralConfig.snifferSysids unchanged).symm }
  · intro defaults
    cases defaults
    cases general
    simp_all [merge, default]

theorem foldl_merge (config : Config) (fragments : List Config) (given : fragments ≠ []) :
    config.merge (fragments.foldl merge default) = fragments.foldl merge config := by
  cases fragments with
  | nil => exact absurd rfl given
  | cons first rest =>
    rw [List.foldl_cons, List.foldl_cons, default_merge]
    exact (List.foldl_assoc).symm

theorem foldl_merge_iff (config : Config) (fragments : List Config) :
    config.merge (fragments.foldl merge default) = fragments.foldl merge config ↔
      fragments ≠ [] ∨ LeavesDefaults config.general := by
  by_cases empty : fragments = []
  · subst empty
    rw [List.foldl_nil, List.foldl_nil, merge_default]
    simp
  · exact iff_of_true (foldl_merge config fragments empty) (.inl empty)

end Config

end MavRouter
