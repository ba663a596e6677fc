import MavRouter.Config.Settings
import MavRouter.Shared.Runs

set_option autoImplicit false

namespace MavRouter.Orchestration

inductive RunEvent where
  | configLoaded (endpoints : Nat)
  | reloadAttempted
  | reloadSucceeded
  | reloadSkipped (reason : String)
  | shutdownStarted
  deriving DecidableEq, Repr

inductive Action where
  | load (outcome : Except RouterError Config)
  | emit (event : RunEvent)
  | spawn (config : Config)
  | cancel

inductive Wake where
  | shutdown
  | sighup
  | allTasks

inductive Phase where
  | loading
  | selecting (config : Config)
  | returned (result : Except RouterError Unit)

structure RunState where
  nextConfig : Option Config
  reload : Bool
  calls : Nat
  phase : Phase
  log : List Action

def hasEndpoints (config : Config) : Bool := !config.endpoint.isEmpty || config.general.tcpPort.isSome

namespace RunState

def act (s : RunState) (actions : List Action) : RunState := { s with log := s.log ++ actions }

def runSession (s : RunState) (config : Config) : RunState :=
  let s := s.act [.emit (.configLoaded config.endpoint.length)]
  if !hasEndpoints config then { s with phase := .returned (.ok ()) }
  else { s.act [.spawn config] with reload := false, phase := .selecting config }

variable (loads : Nat → Except RouterError Config)

def outerLoop (s : RunState) : RunState :=
  match s.nextConfig with
  | some config => { s with nextConfig := none }.runSession config
  | none =>
    let outcome := loads s.calls
    let s := { s.act [.load outcome] with calls := s.calls + 1 }
    match outcome with
    | .ok config => s.runSession config
    | .error e => { s with phase := .returned (.error e) }

def teardown (s : RunState) : RunState :=
  let s := s.act [.emit .shutdownStarted, .cancel]
  if !s.reload then { s with phase := .returned (.ok ()) } else s.outerLoop loads

def onSighup (s : RunState) : RunState :=
  let outcome := loads s.calls
  let s := { s.act [.emit .reloadAttempted, .load outcome] with calls := s.calls + 1 }
  match outcome with
  | .ok config => { s.act [.emit .reloadSucceeded] with nextConfig := some config, reload := true }.teardown loads
  | .error e => s.act [.emit (.reloadSkipped e.display)]

def onWake (s : RunState) (wake : Wake) : RunState :=
  match s.phase with
  | .selecting _ =>
    match wake with
    | .shutdown => s.teardown loads
    | .sighup => s.onSighup loads
    | .allTasks => s.teardown loads
  | _ => s

end RunState

inductive Ending where
  | idle
  | running
  | stopped
  | reloaded (next : Config)

structure Session where
  config : Config
  rejected : List RouterError
  ending : Ending

namespace Session

def rejection (e : RouterError) : List Action :=
  [.emit .reloadAttempted, .load (.error e), .emit (.reloadSkipped e.display)]

def closing : Ending → List Action
  | .stopped => [.emit .shutdownStarted, .cancel]
  | .reloaded next =>
    [.emit .reloadAttempted, .load (.ok next), .emit .reloadSucceeded, .emit .shutdownStarted, .cancel]
  | _ => []

def actions (session : Session) : List Action :=
  .emit (.configLoaded session.config.endpoint.length) ::
    match session.ending with
    | .idle => []
    | ending => .spawn session.config :: session.rejected.flatMap rejection ++ closing ending

def events (session : Session) : List RunEvent :=
  .configLoaded session.config.endpoint.length ::
    match session.ending with
    | .idle => []
    | ending =>
      session.rejected.flatMap (fun e => [.reloadAttempted, .reloadSkipped e.display]) ++
        match ending with
        | .stopped => [.shutdownStarted]
        | .reloaded _ => [.reloadAttempted, .reloadSucceeded, .shutdownStarted]
        | _ => []

end Session

def Action.event : Action → Option RunEvent
  | .emit event => some event
  | _ => none

def Action.outcome : Action → Option (Except RouterError Config)
  | .load outcome => some outcome
  | _ => none

inductive Linked : Config → List Session → Prop where
  | last (session : Session) (final : ∀ next, session.ending ≠ .reloaded next)
      (idle : session.ending = .idle ↔ hasEndpoints session.config = false) : Linked session.config [session]
  | reloaded (session : Session) (next : Config) (rest : List Session) (ending : session.ending = .reloaded next)
      (endpoints : hasEndpoints session.config = true) (later : Linked next rest) :
      Linked session.config (session :: rest)

theorem Linked.final {first : Config} {earlier : List Session} {current : Session}
    (linked : Linked first (earlier ++ [current])) :
    (∀ next, current.ending ≠ .reloaded next) ∧ (current.ending = .idle ↔ hasEndpoints current.config = false) := by
  induction earlier generalizing first with
  | nil =>
    cases linked with
    | last _ final idle => exact ⟨final, idle⟩
    | reloaded _ _ _ _ _ later => cases later
  | cons session rest ih =>
    generalize split : session :: rest ++ [current] = sessions at linked
    cases linked with
    | last other final idle => simp at split
    | reloaded other next tail ending endpoints later =>
      rw [List.cons_append, List.cons.injEq] at split
      rw [← split.2] at later
      exact ih later

theorem Linked.continue {first : Config} {earlier : List Session} {current : Session} {tail : List Session}
    (linked : Linked first (earlier ++ [current])) (further : Linked current.config tail) :
    Linked first (earlier ++ tail) := by
  induction earlier generalizing first with
  | nil =>
    cases linked with
    | last _ final idle => exact further
    | reloaded _ _ _ _ _ later => cases later
  | cons session rest ih =>
    generalize split : session :: rest ++ [current] = sessions at linked
    cases linked with
    | last other final idle => simp at split
    | reloaded other next inner ending endpoints later =>
      rw [List.cons_append, List.cons.injEq] at split
      obtain ⟨rfl, same⟩ := split
      rw [← same] at later
      exact .reloaded session next _ ending endpoints (ih later)

def Session.fresh (config : Config) : Session where
  config := config
  rejected := []
  ending := if hasEndpoints config then .running else .idle

def Session.phase (session : Session) : Phase :=
  match session.ending with
  | .running => .selecting session.config
  | _ => .returned (.ok ())

theorem fresh_linked (config : Config) : Linked config [Session.fresh config] := by
  apply Linked.last (Session.fresh config)
  · intro next
    simp only [Session.fresh]
    split_ifs <;> simp
  · simp only [Session.fresh]
    split_ifs with given <;> simp [given]

structure Recorded (first : Config) (earlier : List Session) (current : Session) (s : RunState) : Prop where
  log : s.log = .load (.ok first) :: (earlier ++ [current]).flatMap Session.actions
  linked : Linked first (earlier ++ [current])
  phase : s.phase = current.phase
  next : s.nextConfig = none
  reload : current.ending = .running → s.reload = false

theorem runSession_recorded (s : RunState) (first config : Config) (earlier : List Session)
    (log : s.log = .load (.ok first) :: earlier.flatMap Session.actions)
    (linked : Linked first (earlier ++ [Session.fresh config])) (next : s.nextConfig = none) :
    Recorded first earlier (Session.fresh config) (s.runSession config) := by
  rw [RunState.runSession]
  by_cases given : hasEndpoints config = true
  · have ending : (Session.fresh config).ending = .running := by simp [Session.fresh, given]
    simp only [given, Bool.not_true, Bool.false_eq_true, if_false]
    refine ⟨?_, linked, ?_, next, fun _ => rfl⟩
    · simp [RunState.act, log, Session.actions, Session.closing, Session.fresh, given]
    · rw [Session.phase, ending]
      rfl
  · have ending : (Session.fresh config).ending = .idle := by simp [Session.fresh, given]
    simp only [Bool.eq_false_iff.mpr given, Bool.not_false, if_true]
    refine ⟨?_, linked, ?_, next, ?_⟩
    · simp [RunState.act, log, Session.actions, Session.fresh, given]
    · rw [Session.phase, ending]
    · intro running
      rw [ending] at running
      cases running

section Run

variable {loads : Nat → Except RouterError Config} {first : Config} {earlier : List Session} {current : Session}
  {s : RunState}

theorem Recorded.log_running (recorded : Recorded first earlier current s) (running : current.ending = .running) :
    s.log = .load (.ok first) :: earlier.flatMap Session.actions ++
      (.emit (.configLoaded current.config.endpoint.length) :: .spawn current.config ::
        current.rejected.flatMap Session.rejection) := by
  rw [recorded.log]
  simp [Session.actions, Session.closing, running]

theorem Recorded.stop (recorded : Recorded first earlier current s) (running : current.ending = .running) :
    Recorded first earlier { current with ending := .stopped } (s.teardown loads) := by
  have log := recorded.log_running running
  have idle := recorded.linked.final.2
  rw [running] at idle
  rw [RunState.teardown]
  simp only [RunState.act, recorded.reload running, Bool.not_false, if_true]
  refine ⟨?_, ?_, rfl, recorded.next, ?_⟩
  · simp [log, Session.actions, Session.closing]
  · apply recorded.linked.continue
    exact .last { current with ending := .stopped } (by simp) (by simpa using idle)
  · intro open'
    cases open'

theorem Recorded.reject (recorded : Recorded first earlier current s) (running : current.ending = .running)
    (e : RouterError) (failed : loads s.calls = .error e) :
    Recorded first earlier { current with rejected := current.rejected ++ [e] } (s.onSighup loads) := by
  have log := recorded.log_running running
  have final := recorded.linked.final
  rw [RunState.onSighup]
  simp only [failed, RunState.act]
  refine ⟨?_, ?_, ?_, recorded.next, recorded.reload⟩
  · simp [log, Session.actions, Session.closing, running, Session.rejection]
  · exact recorded.linked.continue (.last { current with rejected := current.rejected ++ [e] } final.1 final.2)
  · exact recorded.phase

theorem Recorded.restart (recorded : Recorded first earlier current s) (running : current.ending = .running)
    (next : Config) (validated : loads s.calls = .ok next) :
    Recorded first (earlier ++ [{ current with ending := .reloaded next }]) (Session.fresh next)
    (s.onSighup loads) := by
  have log := recorded.log_running running
  have idle := recorded.linked.final.2
  rw [running] at idle
  have given : hasEndpoints current.config = true := by
    simpa using idle
  rw [RunState.onSighup]
  simp only [validated, RunState.teardown, RunState.act, RunState.outerLoop, Bool.not_true, Bool.false_eq_true,
    if_false]
  apply runSession_recorded
  · simp [log, Session.actions, Session.closing]
  · rw [List.append_assoc]
    apply recorded.linked.continue
    exact .reloaded { current with ending := .reloaded next } next _ rfl given (fresh_linked next)
  · rfl

theorem Recorded.onWake (recorded : Recorded first earlier current s) (wake : Wake) :
    ∃ earlier' current', Recorded first earlier' current' (s.onWake loads wake) := by
  have phase := recorded.phase
  rw [Session.phase] at phase
  cases ending : current.ending with
  | running =>
    simp only [ending] at phase
    simp only [RunState.onWake, phase]
    cases wake with
    | shutdown => exact ⟨_, _, recorded.stop ending⟩
    | allTasks => exact ⟨_, _, recorded.stop ending⟩
    | sighup =>
      cases outcome : loads s.calls with
      | ok next => exact ⟨_, _, recorded.restart ending next outcome⟩
      | error e => exact ⟨_, _, recorded.reject ending e outcome⟩
  | idle =>
    simp only [ending] at phase
    simp only [RunState.onWake, phase]
    exact ⟨_, _, recorded⟩
  | stopped =>
    simp only [ending] at phase
    simp only [RunState.onWake, phase]
    exact ⟨_, _, recorded⟩
  | reloaded next => exact absurd ending (recorded.linked.final.1 next)

end Run

-- Every call of load_merged is in the log, in the order of the calls.
def LoadsLogged (loads : Nat → Except RouterError Config) (s : RunState) : Prop :=
  s.log.filterMap Action.outcome = (List.range s.calls).map loads

section Loads

variable {loads : Nat → Except RouterError Config} {s : RunState}

theorem LoadsLogged.act (logged : LoadsLogged loads s) (actions : List Action)
    (silent : actions.filterMap Action.outcome = []) : LoadsLogged loads (s.act actions) := by
  rw [LoadsLogged, RunState.act, List.filterMap_append, silent, List.append_nil]
  exact logged

theorem LoadsLogged.call (logged : LoadsLogged loads s) (actions : List Action)
    (called : actions.filterMap Action.outcome = [loads s.calls]) :
    LoadsLogged loads { s.act actions with calls := s.calls + 1 } := by
  rw [LoadsLogged, RunState.act, List.filterMap_append, called, List.range_succ, List.map_append]
  exact congrArg (fun outcomes => outcomes ++ [loads s.calls]) logged

theorem LoadsLogged.runSession (logged : LoadsLogged loads s) (config : Config) :
    LoadsLogged loads (s.runSession config) := by
  have started := logged.act [.emit (.configLoaded config.endpoint.length)] rfl
  rw [RunState.runSession]
  split_ifs
  · exact started
  · exact started.act [.spawn config] rfl

theorem LoadsLogged.outerLoop (logged : LoadsLogged loads s) : LoadsLogged loads (s.outerLoop loads) := by
  rw [RunState.outerLoop]
  cases s.nextConfig with
  | some config => exact LoadsLogged.runSession (s := { s with nextConfig := none }) logged config
  | none =>
    have called := logged.call [.load (loads s.calls)] rfl
    cases outcome : loads s.calls with
    | ok config =>
      rw [outcome] at called
      exact called.runSession config
    | error e =>
      rw [outcome] at called
      exact called

theorem LoadsLogged.teardown (logged : LoadsLogged loads s) : LoadsLogged loads (s.teardown loads) := by
  have closed := logged.act [.emit .shutdownStarted, .cancel] rfl
  rw [RunState.teardown]
  split_ifs
  · exact closed
  · exact closed.outerLoop

theorem LoadsLogged.onSighup (logged : LoadsLogged loads s) : LoadsLogged loads (s.onSighup loads) := by
  have called := logged.call [.emit .reloadAttempted, .load (loads s.calls)] rfl
  rw [RunState.onSighup]
  cases outcome : loads s.calls with
  | ok config =>
    rw [outcome] at called
    apply LoadsLogged.teardown
    exact called.act [.emit .reloadSucceeded] rfl
  | error e =>
    rw [outcome] at called
    exact called.act [.emit (.reloadSkipped e.display)] rfl

theorem LoadsLogged.onWake (logged : LoadsLogged loads s) (wake : Wake) : LoadsLogged loads (s.onWake loads wake) := by
  unfold RunState.onWake
  split
  · cases wake with
    | shutdown => exact logged.teardown
    | sighup => exact logged.onSighup
    | allTasks => exact logged.teardown
  · exact logged

end Loads

end MavRouter.Orchestration
