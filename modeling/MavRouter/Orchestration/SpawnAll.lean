import MavRouter.Config.Validate
import MavRouter.Ingress.Core

set_option autoImplicit false

namespace MavRouter.Orchestration

open Ingress Routing

inductive Panic where
  | emptyChannel
  | zeroPeriod
  | capacityOverflow
  | divisionByZero
  | indexOutOfBounds
  deriving DecidableEq, Repr

def isizeMax : Nat := 0x7FFFFFFFFFFFFFFF

-- The calls into the libraries that panic on some arguments.
def broadcastChannel (capacity : Nat) : Except Panic Bus :=
  if capacity = 0 then .error .emptyChannel
  else if usizeMax / 2 < capacity then .error .capacityOverflow
  else .ok { sent := [], receivers := 0 }

def interval (period : Duration) : Except Panic Unit := if period = 0 then .error .zeroPeriod else .ok ()

def withCapacity (elementBytes capacity : Nat) : Except Panic Unit :=
  if isizeMax < capacity * elementBytes then .error .capacityOverflow else .ok ()

structure EndpointSpawnContext where
  id : Nat
  filters : EndpointFilters
  stats : Nat

def EndpointSpawnContext.endpointCore (ctx : EndpointSpawnContext) (updateRouting : Bool) : EndpointCore where
  id := ⟨ctx.id⟩
  filters := ctx.filters
  updateRouting := updateRouting
  stats := ctx.stats

inductive Transport where
  | udp (address : String) (mode : EndpointMode) (cleanupTtl broadcastTimeoutSecs : UInt64)
  | tcp (address : String) (mode : EndpointMode)
  | serial (device : String) (bauds : List UInt32) (flowControl : FlowControl)

inductive Task where
  | dedupRotator (rotationInterval : Duration)
  | routingUpdater (pruneTtl pruneInterval : Duration)
  | tlog (dir : String)
  | endpoint (ctx : EndpointSpawnContext) (transport : Transport)
  | statsReporter (sampleInterval retention logInterval : UInt64)

structure NamedTask where
  name : String
  task : Task

structure OrchestratedRouter where
  tasks : List NamedTask
  bus : Bus
  routingTable : RoutingTable
  dedup : ConcurrentDedup
  endpointStats : List (EndpointId × String)

def createBus (capacity : UInt64) : Except Panic Bus := broadcastChannel capacity.toNat

-- Every shard allocates its buckets; bucketBytes is the size of one.
def newDedup (bucketBytes : Nat) (dedupPeriod : Duration) : Except Panic ConcurrentDedup := do
  if dedupPeriod ≠ 0 then withCapacity bucketBytes (bucketCount dedupPeriod)
  .ok (ConcurrentDedup.new dedupPeriod)

def registerGroups : Nat → List EndpointConfig → RoutingTable → RoutingTable
  | _, [], rt => rt
  | i, endpointConfig :: rest, rt =>
    registerGroups (i + 1) rest <|
      match endpointConfig.group with
      | some group => rt.setEndpointGroup ⟨i⟩ group
      | none => rt

def registeredTable (config : Config) : RoutingTable :=
  let rt := registerGroups 0 config.endpoint RoutingTable.new
  if config.general.snifferSysids.isEmpty then rt else rt.setSnifferSysids config.general.snifferSysids

def buildEndpointContext (i : Nat) (cfg : EndpointConfig) (stats : Nat) : String × EndpointSpawnContext :=
  let name :=
    match cfg with
    | .udp address _ _ _ _ => "UDP Endpoint " ++ toString i ++ " (" ++ address ++ ")"
    | .tcp address _ _ _ => "TCP Endpoint " ++ toString i ++ " (" ++ address ++ ")"
    | .serial device _ _ _ _ => "Serial Endpoint " ++ toString i ++ " (" ++ device ++ ")"
  (name, { id := i, filters := cfg.filters, stats })

def transport (pruneTtl : UInt64) : EndpointConfig → Transport
  | .udp address mode broadcastTimeoutSecs _ _ => .udp address mode pruneTtl broadcastTimeoutSecs
  | .tcp address mode _ _ => .tcp address mode
  | .serial device baud flowControl _ _ => .serial device baud.rates flowControl

def implicitServer (config : Config) : Option (NamedTask × EndpointSpawnContext) :=
  config.general.tcpPort.map fun port =>
    let ctx : EndpointSpawnContext := { id := config.endpoint.length, filters := {}, stats := 0 }
    (⟨"Implicit TCP Server :" ++ toString port, .endpoint ctx (.tcp ("0.0.0.0:" ++ toString port) .server)⟩, ctx)

def dedupRotator (dedup : ConcurrentDedup) : List NamedTask :=
  if dedup.bucketInterval = 0 then [] else [⟨"Dedup Rotator", .dedupRotator dedup.bucketInterval⟩]

def routingUpdater (general : GeneralConfig) : NamedTask :=
  ⟨"Routing Updater", .routingUpdater (Duration.fromSecs general.routingTableTtlSecs.toNat)
    (Duration.fromSecs general.routingTablePruneIntervalSecs.toNat)⟩

def tlogLogger (general : GeneralConfig) : List NamedTask :=
  match general.log with
  | some logDir => if general.logTelemetry then [⟨"TLog Logger " ++ logDir, .tlog logDir⟩] else []
  | none => []

def configuredEndpoints (config : Config) : List (NamedTask × EndpointSpawnContext) :=
  config.endpoint.mapIdx fun i cfg =>
    let (name, ctx) := buildEndpointContext i cfg ((implicitServer config).toList.length + i)
    (⟨name, .endpoint ctx (transport config.general.routingTableTtlSecs cfg)⟩, ctx)

def spawnAll (bucketBytes : Nat) (config : Config) : Except Panic OrchestratedRouter := do
  let bus ← createBus config.general.busCapacity
  let routingTable := registeredTable config
  let dedup ← newDedup bucketBytes (Duration.fromMillis (config.general.dedupPeriodMs.getD 0).toNat)
  let implicit := (implicitServer config).toList
  let configured := configuredEndpoints config
  .ok
    { tasks := dedupRotator dedup ++ [routingUpdater config.general] ++ implicit.map Prod.fst ++
        tlogLogger config.general ++ configured.map Prod.fst
      bus, routingTable, dedup
      endpointStats := (implicit ++ configured).map fun spawned => (⟨spawned.2.id⟩, spawned.1.name) }

def spawnStatsReporter (sampleInterval retention logInterval : UInt64) : Option NamedTask :=
  if sampleInterval = 0 ∨ retention = 0 then none
  else some ⟨"Stats Reporter", .statsReporter sampleInterval retention logInterval⟩

def currentBaud (bauds : List UInt32) (idx : Nat) : Except Panic UInt32 :=
  if bauds.length = 0 then .error .divisionByZero
  else
    match bauds[idx % bauds.length]? with
    | some baud => .ok baud
    | none => .error .indexOutOfBounds

def routeUpdateBytes : Nat := 32
def routingStatsBytes : Nat := 32

-- What a task computes at its start before it waits for anything; idx counts the restarts before this one.
def Task.start (idx : Nat) : Task → Except Panic Unit
  | .dedupRotator rotationInterval => interval rotationInterval
  | .routingUpdater _ pruneInterval => do
    interval pruneInterval
    withCapacity routeUpdateBytes routeUpdateBatchSize
  | .tlog _ => interval (Duration.fromSecs 1)
  | .endpoint _ (.udp ..) => interval (Duration.fromSecs 60)
  | .endpoint _ (.tcp ..) => .ok ()
  | .endpoint _ (.serial _ bauds _) => (currentBaud bauds idx).map fun _ => ()
  | .statsReporter _ retention _ => withCapacity routingStatsBytes retention.toNat

/-- The router starts, and so does every task of it, at every restart. -/
structure Starts (bucketBytes : Nat) (config : Config) : Prop where
  spawned : ∃ orchestrated, spawnAll bucketBytes config = .ok orchestrated ∧
    ∀ named ∈ orchestrated.tasks, ∀ idx, named.task.start idx = .ok ()
  reporter : ∀ named ∈ spawnStatsReporter config.general.statsSampleIntervalSecs config.general.statsRetentionSecs
    config.general.statsLogIntervalSecs, ∀ idx, named.task.start idx = .ok ()

theorem broadcastChannel_ok (capacity : Nat) (proper : 0 < capacity) (bounded : capacity ≤ usizeMax / 2) :
    broadcastChannel capacity = .ok { sent := [], receivers := 0 } := by
  rw [broadcastChannel, if_neg (by omega), if_neg (by omega)]

theorem interval_ok (period : Duration) : interval period = .ok () ↔ period ≠ 0 := by
  rw [interval]
  split_ifs with zero <;> simp [zero]

theorem withCapacity_ok (elementBytes capacity : Nat) :
    withCapacity elementBytes capacity = .ok () ↔ capacity * elementBytes ≤ isizeMax := by
  rw [withCapacity]
  split_ifs with large
  · simpa using large
  · simpa using large

theorem newDedup_ok (bucketBytes : Nat) (dedupPeriod : Duration) (dedup : ConcurrentDedup) :
    newDedup bucketBytes dedupPeriod = .ok dedup ↔
      (dedupPeriod = 0 ∨ bucketCount dedupPeriod * bucketBytes ≤ isizeMax) ∧
        dedup = ConcurrentDedup.new dedupPeriod := by
  rw [newDedup, ← withCapacity_ok]
  by_cases disabled : dedupPeriod = 0
  · simp [disabled, eq_comm]
  · cases withCapacity bucketBytes (bucketCount dedupPeriod) <;>
      simp [disabled, eq_comm, bind, Except.bind]

theorem spawnAll_ok (bucketBytes : Nat) (config : Config) (orchestrated : OrchestratedRouter) :
    spawnAll bucketBytes config = .ok orchestrated ↔
      ∃ bus, createBus config.general.busCapacity = .ok bus ∧ ∃ dedup,
        newDedup bucketBytes (Duration.fromMillis (config.general.dedupPeriodMs.getD 0).toNat) = .ok dedup ∧
          { tasks := dedupRotator dedup ++ [routingUpdater config.general] ++
              (implicitServer config).toList.map Prod.fst ++ tlogLogger config.general ++
              (configuredEndpoints config).map Prod.fst
            bus, routingTable := registeredTable config, dedup
            endpointStats := ((implicitServer config).toList ++ configuredEndpoints config).map fun spawned =>
              (⟨spawned.2.id⟩, spawned.1.name) } = orchestrated := by
  rw [spawnAll]
  simp only [Config.bind_ok, Except.ok.injEq]

theorem currentBaud_ok (bauds : List UInt32) (idx : Nat) :
    (∃ baud, currentBaud bauds idx = .ok baud) ↔ bauds ≠ [] := by
  rw [currentBaud]
  by_cases empty : bauds = []
  · simp [empty]
  · have positive := List.length_pos_iff.mpr empty
    have inside := Nat.mod_lt idx positive
    rw [if_neg (by omega), List.getElem?_eq_getElem inside]
    simp [empty]

theorem bucketCount_fromMillis (ms : UInt64) : bucketCount (Duration.fromMillis ms.toNat) = max (ms.toNat / 100) 2 := by
  have bound := ms.toNat_lt
  have whole : ms.toNat * 1000000 / 1000000 = ms.toNat := Nat.mul_div_cancel _ (by decide)
  rw [bucketCount, bucketMillis, Duration.asMillis, Duration.fromMillis, whole]
  congr 1
  apply Nat.min_eq_right
  change ms.toNat / 100 ≤ usizeMax
  rw [usizeMax]
  omega

theorem transport_starts (pruneTtl : UInt64) (cfg : EndpointConfig) (sound : cfg.Sound) (ctx : EndpointSpawnContext)
    (idx : Nat) : (Task.endpoint ctx (transport pruneTtl cfg)).start idx = .ok () := by
  cases cfg with
  | udp address mode timeout filters group => rfl
  | tcp address mode filters group => rfl
  | serial device baud flowControl filters group =>
    obtain ⟨rate, chosen⟩ := (currentBaud_ok baud.rates idx).mpr (sound.baud baud.rates rfl).1
    simp only [transport, Task.start, chosen]
    rfl

theorem routingUpdater_starts (general : GeneralConfig) (given : general.routingTablePruneIntervalSecs ≠ 0)
    (idx : Nat) :
    (routingUpdater general).task.start idx = .ok () := by
  have period : Duration.fromSecs general.routingTablePruneIntervalSecs.toNat ≠ 0 := by
    intro zero
    apply given
    apply UInt64.toNat_inj.mp
    exact (Nat.mul_eq_zero.mp zero).resolve_right (by decide)
  simp only [routingUpdater, Task.start, (interval_ok _).mpr period]
  rfl

theorem spawnAll_iff (bucketBytes : Nat) (config : Config) (valid : config.Valid) :
    (∃ orchestrated, spawnAll bucketBytes config = .ok orchestrated ∧
      ∀ named ∈ orchestrated.tasks, ∀ idx, named.task.start idx = .ok ()) ↔
      config.general.dedupPeriodMs.getD 0 = 0 ∨
        max ((config.general.dedupPeriodMs.getD 0).toNat / 100) 2 * bucketBytes ≤ isizeMax := by
  have bus : createBus config.general.busCapacity = .ok { sent := [], receivers := 0 } := by
    have low := UInt64.le_iff_toNat_le.mp valid.busCapacity.1
    have high := UInt64.le_iff_toNat_le.mp valid.busCapacity.2
    have ten : (10 : UInt64).toNat = 10 := rfl
    have million : (1000000 : UInt64).toNat = 1000000 := rfl
    exact broadcastChannel_ok _ (by omega) (by rw [usizeMax]; omega)
  have zero : Duration.fromMillis (config.general.dedupPeriodMs.getD 0).toNat = 0 ↔
      config.general.dedupPeriodMs.getD 0 = 0 := by
    rw [← UInt64.toNat_inj]
    exact ⟨fun none => (Nat.mul_eq_zero.mp none).resolve_right (by decide), fun none => by rw [none]; rfl⟩
  have allocates := newDedup_ok bucketBytes (Duration.fromMillis (config.general.dedupPeriodMs.getD 0).toNat)
  rw [zero, bucketCount_fromMillis] at allocates
  simp only [spawnAll_ok, bus]
  constructor
  · rintro ⟨orchestrated, ⟨_, _, dedup, allocated, _⟩, _⟩
    exact ((allocates dedup).mp allocated).1
  · intro room
    refine ⟨_, ⟨_, rfl, _, (allocates _).mpr ⟨room, rfl⟩, rfl⟩, ?_⟩
    intro named member idx
    simp only [List.mem_append, List.mem_singleton, List.mem_map] at member
    rcases member with (((rotator | rfl) | ⟨server, implicit, rfl⟩) | logger) | ⟨spawned, configured, rfl⟩
    · rw [dedupRotator] at rotator
      split_ifs at rotator with idle
      · cases rotator
      · rw [List.mem_singleton.mp rotator]
        exact (interval_ok _).mpr idle
    · exact routingUpdater_starts config.general valid.pruneInterval idx
    · obtain ⟨port, _, rfl⟩ := Option.map_eq_some_iff.mp (Option.mem_toList.mp implicit)
      rfl
    · rw [tlogLogger] at logger
      split at logger
      · split_ifs at logger
        · rw [List.mem_singleton.mp logger]
          rfl
        · cases logger
      · cases logger
    · obtain ⟨i, inside, rfl⟩ := List.mem_mapIdx.mp configured
      exact transport_starts _ _ (valid.endpoints _ (List.getElem_mem inside)) _ idx

theorem starts_iff (bucketBytes : Nat) (config : Config) (valid : config.validate = .ok ()) :
    Starts bucketBytes config ↔
      (config.general.dedupPeriodMs.getD 0 = 0 ∨
        max ((config.general.dedupPeriodMs.getD 0).toNat / 100) 2 * bucketBytes ≤ isizeMax) ∧
      (config.general.statsSampleIntervalSecs = 0 ∨
        config.general.statsRetentionSecs.toNat * routingStatsBytes ≤ isizeMax) := by
  rw [← spawnAll_iff bucketBytes config ((Config.validate_ok config).mp valid)]
  have reporter : (∀ named ∈ spawnStatsReporter config.general.statsSampleIntervalSecs
        config.general.statsRetentionSecs config.general.statsLogIntervalSecs,
        ∀ idx, named.task.start idx = .ok ()) ↔
      config.general.statsSampleIntervalSecs = 0 ∨
        config.general.statsRetentionSecs.toNat * routingStatsBytes ≤ isizeMax := by
    rw [← withCapacity_ok, spawnStatsReporter]
    by_cases sampling : config.general.statsSampleIntervalSecs = 0
    · simp [sampling]
    · by_cases keeping : config.general.statsRetentionSecs = 0
      · simp [keeping, withCapacity, isizeMax]
      · simp [sampling, keeping, Task.start]
  rw [← reporter]
  exact ⟨fun starts => ⟨starts.spawned, starts.reporter⟩, fun parts => ⟨parts.1, parts.2⟩⟩

def oneServer : Config where
  general :=
    { tcpPort := some 5760
      dedupPeriodMs := some 1000
      statsSampleIntervalSecs := 5
      statsRetentionSecs := 86400 }

theorem starts_iff_oneServer : Starts 64 oneServer :=
  (starts_iff 64 oneServer rfl).mpr ⟨.inr (by decide), .inr (by decide)⟩

-- The retention of this configuration does not fit into memory, and nothing has checked it.
theorem retention_panics :
    ¬∀ (bucketBytes : Nat) (config : Config), config.validate = .ok () → Starts bucketBytes config := by
  intro claimed
  have starts := claimed 64 { general := { tcpPort := some 5760, statsRetentionSecs := 400000000000000000 } } rfl
  have reporter := starts.reporter _ rfl 0
  revert reporter
  decide

end MavRouter.Orchestration
