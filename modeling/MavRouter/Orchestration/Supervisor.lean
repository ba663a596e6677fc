import Mathlib.Data.List.Rotate
import MavRouter.Endpoints.Reconnect
import MavRouter.Error
import MavRouter.Orchestration.SpawnAll

set_option autoImplicit false

namespace MavRouter.Orchestration

open Runs Endpoints

inductive SupervisorPhase where
  | running (startTime : Instant)
  | waiting (deadline : Instant)
  | stopped
  deriving DecidableEq, Repr

structure Supervisor where
  backoff : ExponentialBackoff
  -- How many times task_factory was called.
  calls : Nat
  phase : SupervisorPhase

inductive SupervisorEvent where
  | finished (result : Except RouterError Unit) (now : Instant)
  | slept (now : Instant)
  | cancelled (now : Instant)

def SupervisorEvent.time : SupervisorEvent → Instant
  | .finished _ now => now
  | .slept now => now
  | .cancelled now => now

namespace Supervisor

def start (now : Instant) : Supervisor where
  backoff := .new (Duration.fromSecs 1) (Duration.fromSecs 30) 2
  calls := 1
  phase := .running now

def longRun (startTime now : Instant) : Bool := decide (Duration.fromSecs 60 < Instant.durationSince now startTime)

-- A task that ends without an error is restarted like one that fails.
def step (s : Supervisor) (event : SupervisorEvent) : Supervisor :=
  match s.phase, event with
  | .running startTime, .finished _ now =>
    let backoff := if longRun startTime now then s.backoff.reset else s.backoff
    let (wait, backoff) := backoff.nextBackoff
    { s with backoff, phase := .waiting (now + wait) }
  | .waiting deadline, .slept now =>
    if deadline ≤ now then { s with calls := s.calls + 1, phase := .running now } else s
  | _, .cancelled _ => { s with phase := .stopped }
  | _, _ => s

def emit (s : Supervisor) (event : SupervisorEvent) : Option (Bool × Duration) :=
  match s.phase, event with
  | .running startTime, .finished _ now =>
    let resets := longRun startTime now
    some (resets, (if resets then s.backoff.reset else s.backoff).nextBackoff.1)
  | _, _ => none

def policy : Backoff.Policy Duration := doubling (Duration.fromSecs 1) (Duration.fromSecs 30) (by decide)

theorem step_cases (s : Supervisor) (event : SupervisorEvent) :
    (∃ startTime result now resets wait, s.phase = .running startTime ∧ event = .finished result now ∧
      resets = longRun startTime now ∧ s.emit event = some (resets, wait) ∧
      s.step event =
        { s with
          backoff := (if resets then s.backoff.reset else s.backoff).nextBackoff.2
          phase := .waiting (now + wait) } ∧
      wait = (if resets then s.backoff.reset else s.backoff).nextBackoff.1) ∨
    (∃ deadline now, s.phase = .waiting deadline ∧ event = .slept now ∧ deadline ≤ now ∧ s.emit event = none ∧
      s.step event = { s with calls := s.calls + 1, phase := .running now }) ∨
    (∃ now, event = .cancelled now ∧ s.emit event = none ∧ s.step event = { s with phase := .stopped }) ∨
    (s.emit event = none ∧ s.step event = s) := by
  cases phase : s.phase with
  | running startTime =>
    cases event with
    | finished result now =>
      exact .inl ⟨startTime, result, now, _, _, rfl, rfl, rfl, by simp only [emit, phase], by simp only [step, phase],
        rfl⟩
    | slept now => exact .inr (.inr (.inr ⟨by simp only [emit, phase], by simp only [step, phase]⟩))
    | cancelled now => exact .inr (.inr (.inl ⟨now, rfl, by simp only [emit, phase], by simp only [step, phase]⟩))
  | waiting deadline =>
    cases event with
    | finished result now => exact .inr (.inr (.inr ⟨by simp only [emit, phase], by simp only [step, phase]⟩))
    | slept now =>
      by_cases elapsed : deadline ≤ now
      · exact .inr (.inl ⟨deadline, now, rfl, rfl, elapsed, by simp only [emit, phase],
          by simp only [step, phase, if_pos elapsed]⟩)
      · exact .inr (.inr (.inr ⟨by simp only [emit, phase], by simp only [step, phase, if_neg elapsed]⟩))
    | cancelled now => exact .inr (.inr (.inl ⟨now, rfl, by simp only [emit, phase], by simp only [step, phase]⟩))
  | stopped =>
    cases event with
    | finished result now => exact .inr (.inr (.inr ⟨by simp only [emit, phase], by simp only [step, phase]⟩))
    | slept now => exact .inr (.inr (.inr ⟨by simp only [emit, phase], by simp only [step, phase]⟩))
    | cancelled now => exact .inr (.inr (.inl ⟨now, rfl, by simp only [emit, phase], by simp only [step, phase]⟩))

theorem stops_cancelled (begun : Instant) (events : List SupervisorEvent)
    (stopped : (events.foldl step (start begun)).phase = .stopped) : ∃ now, .cancelled now ∈ events := by
  revert stopped
  apply run_history step (start begun) (fun events s => s.phase = .stopped → ∃ now, .cancelled now ∈ events)
  · simp [start]
  · intro events event ih stopped
    generalize events.foldl step (start begun) = s at ih stopped
    rcases step_cases s event with ⟨_, _, _, _, _, _, _, _, _, stepped, _⟩ | ⟨_, _, _, _, _, _, stepped⟩ |
      ⟨now, rfl, _, _⟩ | ⟨_, stepped⟩
    · rw [stepped] at stopped
      cases stopped
    · rw [stepped] at stopped
      cases stopped
    · exact ⟨now, by simp⟩
    · rw [stepped] at stopped
      obtain ⟨now, member⟩ := ih stopped
      exact ⟨now, List.mem_append_left _ member⟩

end Supervisor

namespace Supervisor

/-- The backoff of the loop, at one of the six delays it can come to. -/
structure Steady (backoff : ExponentialBackoff) : Prop where
  least : backoff.min = Duration.fromSecs 1
  cap : backoff.max = Duration.fromSecs 30
  twice : backoff.multiplier = 2
  current : backoff.current ∈ [1, 2, 4, 8, 16, 30].map Duration.fromSecs

-- What five times the coming delays are still short of 91 seconds a round: the early ones are too short, and the long
-- ones make up for it until a run of more than a minute pays for the next reset.
def slack (current : Duration) : Duration :=
  if current = Duration.fromSecs 1 then Duration.fromSecs 300
  else if current = Duration.fromSecs 2 then Duration.fromSecs 214
  else if current = Duration.fromSecs 4 then Duration.fromSecs 133
  else if current = Duration.fromSecs 8 then Duration.fromSecs 62
  else if current = Duration.fromSecs 16 then Duration.fromSecs 11
  else 0

theorem Steady.next {backoff : ExponentialBackoff} (steady : Steady backoff) :
    Steady backoff.nextBackoff.2 ∧ slack backoff.nextBackoff.2.current + Duration.fromSecs 91 ≤
      slack backoff.current + 5 * backoff.nextBackoff.1 := by
  obtain ⟨least, cap, twice, current⟩ := steady
  simp only [List.map_cons, List.map_nil, List.mem_cons, List.not_mem_nil, or_false] at current
  refine ⟨⟨least, cap, twice, ?_⟩, ?_⟩
  · simp only [ExponentialBackoff.nextBackoff, cap, twice]
    rcases current with same | same | same | same | same | same <;> rw [same] <;> decide
  · simp only [ExponentialBackoff.nextBackoff, cap, twice]
    rcases current with same | same | same | same | same | same <;> rw [same] <;> decide

theorem Steady.reset {backoff : ExponentialBackoff} (steady : Steady backoff) : Steady backoff.reset :=
  ⟨steady.least, steady.cap, steady.twice, by simp [ExponentialBackoff.reset, steady.least]⟩

theorem Steady.resetNext {backoff : ExponentialBackoff} (steady : Steady backoff) :
    slack backoff.reset.nextBackoff.2.current + Duration.fromSecs 91 ≤
      5 * (Duration.fromSecs 60 + backoff.reset.nextBackoff.1) := by
  simp only [ExponentialBackoff.reset, ExponentialBackoff.nextBackoff, steady.least, steady.cap, steady.twice]
  decide

theorem short_pays (next last startTime now wait round : Nat) (later : startTime ≤ now)
    (paid : next + round ≤ last + 5 * wait) : next + round + 5 * startTime ≤ last + 5 * (now + wait) := by
  omega

theorem long_pays (next last startTime now wait round minute : Nat) (ran : minute < now - startTime)
    (paid : next + round ≤ 5 * (minute + wait)) : next + round + 5 * startTime ≤ last + 5 * (now + wait) := by
  omega

theorem Steady.round {backoff : ExponentialBackoff} (steady : Steady backoff) (startTime now : Instant)
    (later : startTime ≤ now) :
    let round := (if longRun startTime now then backoff.reset else backoff).nextBackoff
    Steady round.2 ∧ slack round.2.current + Duration.fromSecs 91 + 5 * startTime ≤
      slack backoff.current + 5 * (now + round.1) := by
  cases long : longRun startTime now with
  | false =>
    obtain ⟨further, paid⟩ := steady.next
    exact ⟨further, short_pays _ _ _ _ _ _ later paid⟩
  | true => exact ⟨steady.reset.next.1, long_pays _ _ _ _ _ _ _ (of_decide_eq_true long) steady.resetNext⟩

def Paid (calls : Nat) (first : Instant) (s : Supervisor) : Prop :=
  match s.phase with
  | .running startTime =>
    Duration.fromSecs 91 * s.calls + slack s.backoff.current + 5 * first ≤
      5 * startTime + Duration.fromSecs 300 + Duration.fromSecs 91 * calls
  | .waiting deadline =>
    Duration.fromSecs 91 * (s.calls + 1) + slack s.backoff.current + 5 * first ≤
      5 * deadline + Duration.fromSecs 300 + Duration.fromSecs 91 * calls
  | .stopped => True

theorem round_paid (next last startTime now wait total first calls round : Nat)
    (before : round * total + last + 5 * first ≤ 5 * startTime + 300000000000 + round * calls)
    (paid : next + round + 5 * startTime ≤ last + 5 * (now + wait)) :
    round * (total + 1) + next + 5 * first ≤ 5 * (now + wait) + 300000000000 + round * calls := by
  rw [Nat.mul_add, Nat.mul_one]
  omega

theorem slack_bounded (current : Duration) : slack current ≤ Duration.fromSecs 300 := by
  rw [slack]
  split_ifs <;> decide

theorem lent_first (slack first grace lent : Nat) (bounded : slack ≤ grace) :
    lent + slack + 5 * first ≤ 5 * first + grace + lent := by
  omega

theorem paid_first (s : Supervisor) (first : Instant) (running : s.phase = .running first) : s.Paid s.calls first := by
  rw [Paid, running]
  exact lent_first _ _ _ _ (slack_bounded s.backoff.current)

theorem run_paid (calls : Nat) (first : Instant) (events : List SupervisorEvent)
    (ordered : events.Pairwise fun earlier later => earlier.time ≤ later.time) (s : Supervisor)
    (steady : Steady s.backoff)
    (paid : s.Paid calls first)
    (after : ∀ startTime, s.phase = .running startTime → ∀ event ∈ events, startTime ≤ event.time) :
    (events.foldl step s).Paid calls first ∧ Steady (events.foldl step s).backoff := by
  induction events generalizing s with
  | nil => exact ⟨paid, steady⟩
  | cons event rest ih =>
    obtain ⟨next, sorted⟩ := List.pairwise_cons.mp ordered
    rw [List.foldl_cons]
    rw [Paid] at paid
    rcases step_cases s event with ⟨startTime, result, now, resets, wait, phase, rfl, rfl, _, stepped, waits⟩ |
      ⟨deadline, now, phase, rfl, elapsed, _, stepped⟩ | ⟨now, rfl, _, stepped⟩ | ⟨_, stepped⟩
    · rw [phase] at paid
      obtain ⟨further, pays⟩ := steady.round startTime now (after startTime phase (.finished result now) (by simp))
      apply ih sorted <;> rw [stepped]
      · exact further
      · rw [waits]
        exact round_paid _ _ _ _ _ _ _ _ _ paid pays
      · simp
    · rw [phase] at paid
      apply ih sorted <;> rw [stepped]
      · exact steady
      · exact Nat.le_trans paid (Nat.add_le_add_right (Nat.add_le_add_right (Nat.mul_le_mul_left 5 elapsed) _) _)
      · intro startTime running
        cases running
        exact next
    · apply ih sorted <;> rw [stepped]
      · exact steady
      · trivial
      · simp
    · rw [stepped]
      exact ih sorted s steady paid fun startTime running later member =>
        after startTime running later (List.mem_cons_of_mem _ member)

theorem running_since (begun : Instant) (events : List SupervisorEvent) (startTime : Instant)
    (running : (events.foldl step (start begun)).phase = .running startTime) :
    startTime = begun ∨ ∃ event ∈ events, event.time = startTime := by
  revert startTime
  apply run_history step (start begun) (fun events s => ∀ startTime, s.phase = .running startTime →
    startTime = begun ∨ ∃ event ∈ events, event.time = startTime)
  · intro startTime running
    cases running
    exact .inl rfl
  · intro events event ih startTime running
    rcases step_cases (events.foldl step (start begun)) event with ⟨_, _, _, _, _, _, _, _, _, stepped, _⟩ |
      ⟨_, _, _, rfl, _, _, stepped⟩ | ⟨_, _, _, stepped⟩ | ⟨_, stepped⟩
    · rw [stepped] at running
      cases running
    · rw [stepped] at running
      cases running
      exact .inr ⟨.slept startTime, by simp, rfl⟩
    · rw [stepped] at running
      cases running
    · rw [stepped] at running
      exact (ih startTime running).imp_right fun ⟨earlier, member, same⟩ =>
        ⟨earlier, List.mem_append_left _ member, same⟩

end Supervisor

theorem paid_between (paid lent first last grace : Nat) (bound : paid + 5 * first ≤ 5 * last + grace + lent) :
    paid - lent ≤ 5 * (last - first) + grace := by
  omega

theorem restart_rate (begun : Instant) (older newer : List SupervisorEvent)
    (ordered : (older ++ newer).Pairwise fun earlier later => earlier.time ≤ later.time)
    (after : ∀ event ∈ older ++ newer, begun ≤ event.time) (first last : Instant)
    (starts : (older.foldl Supervisor.step (.start begun)).phase = .running first)
    (restarts : ((older ++ newer).foldl Supervisor.step (.start begun)).phase = .running last) :
    let calls := (older.foldl Supervisor.step (.start begun)).calls
    let later := ((older ++ newer).foldl Supervisor.step (.start begun)).calls
    Duration.fromSecs 91 * (later - calls) ≤ 5 * (last - first) + Duration.fromSecs 300 := by
  intro calls later
  obtain ⟨front, back, across⟩ := List.pairwise_append.mp ordered
  have steady : Supervisor.Steady (Supervisor.start begun).backoff := ⟨rfl, rfl, rfl, List.mem_cons_self⟩
  have reached := Supervisor.run_paid 1 begun older front (.start begun) steady
    (Supervisor.paid_first (.start begun) begun rfl) (by
      intro startTime running event member
      cases running
      exact after event (List.mem_append_left _ member))
  have since : ∀ startTime, (older.foldl Supervisor.step (.start begun)).phase = .running startTime →
      ∀ event ∈ newer, startTime ≤ event.time := by
    intro startTime running event member
    rcases Supervisor.running_since begun older startTime running with rfl | ⟨earlier, inside, rfl⟩
    · exact after event (List.mem_append_right _ member)
    · exact across earlier inside event member
  have paid := (Supervisor.run_paid calls first newer back _ reached.2 (Supervisor.paid_first _ first starts) since).1
  rw [← List.foldl_append, Supervisor.Paid, restarts] at paid
  rw [Nat.mul_sub]
  exact paid_between _ _ _ _ _ (Nat.le_trans (Nat.add_le_add_right (Nat.le_add_right _ _) _) paid)

theorem restart_rate_once : Duration.fromSecs 91 * (2 - 1) ≤ 5 * (Duration.fromSecs 1 - 0) + Duration.fromSecs 300 :=
  restart_rate 0 [] [.finished (.ok ()) 0, .slept (Duration.fromSecs 1)] (by simp [SupervisorEvent.time]) (by simp) 0
    (Duration.fromSecs 1) rfl rfl

-- The factory of a serial endpoint counts its calls, and takes the rate that comes next in turn.
def Supervisor.bauds (bauds : List UInt32) (s : Supervisor) (event : SupervisorEvent) : List (Except Panic UInt32) :=
  match s.phase, event with
  | .waiting deadline, .slept now => if deadline ≤ now then [currentBaud bauds (s.calls % (usizeMax + 1))] else []
  | _, _ => []

def triedBauds (bauds : List UInt32) (begun : Instant) (events : List SupervisorEvent) : List (Except Panic UInt32) :=
  currentBaud bauds 0 :: (trace (Supervisor.bauds bauds) Supervisor.step (.start begun) events).flatten

theorem bauds_step (bauds : List UInt32) (s : Supervisor) (event : SupervisorEvent) :
    ((List.range s.calls).map fun idx => currentBaud bauds (idx % (usizeMax + 1))) ++ s.bauds bauds event =
      (List.range (s.step event).calls).map fun idx => currentBaud bauds (idx % (usizeMax + 1)) := by
  cases phase : s.phase <;> cases event <;> simp only [Supervisor.bauds, Supervisor.step, phase, List.append_nil]
  split_ifs <;> simp [List.range_succ]

theorem triedBauds_calls (bauds : List UInt32) (begun : Instant) (events : List SupervisorEvent) :
    triedBauds bauds begun events = (List.range (events.foldl Supervisor.step (.start begun)).calls).map fun idx =>
      currentBaud bauds (idx % (usizeMax + 1)) := by
  apply run_history Supervisor.step (.start begun) (fun events s => triedBauds bauds begun events =
    (List.range s.calls).map fun idx => currentBaud bauds (idx % (usizeMax + 1)))
  · simp [triedBauds, trace, Supervisor.start]
  · intro events event ih
    rw [← bauds_step, ← ih, triedBauds, triedBauds, trace_append, List.flatten_append]
    simp [trace]

theorem every_baud_tried (bauds : List UInt32) (configured : bauds ≠ []) (begun : Instant)
    (events : List SupervisorEvent)
    (fewer : (events.foldl Supervisor.step (.start begun)).calls ≤ usizeMax + 1) (k : Nat)
    (made : k + bauds.length ≤ (events.foldl Supervisor.step (.start begun)).calls) :
    (((triedBauds bauds begun events).drop k).take bauds.length).Perm (bauds.map .ok) := by
  have positive := List.length_pos_iff.mpr configured
  have turned : ((triedBauds bauds begun events).drop k).take bauds.length = (bauds.rotate k).map .ok := by
    rw [triedBauds_calls]
    apply List.ext_getElem
    · simp only [List.length_take, List.length_drop, List.length_map, List.length_range, List.length_rotate]
      omega
    · intro j inside _
      have low : j < bauds.length := Nat.lt_of_lt_of_le inside (List.length_take_le _ _)
      have exact : (j + k) % (usizeMax + 1) = j + k := Nat.mod_eq_of_lt (by omega)
      have within := Nat.mod_lt (j + k) positive
      simp only [List.getElem_take, List.getElem_drop, List.getElem_map, List.getElem_range, List.getElem_rotate,
        Nat.add_comm k j, exact, currentBaud, if_neg (Nat.ne_of_gt positive), List.getElem?_eq_getElem within]
  rw [turned]
  exact (List.rotate_perm bauds k).map _

theorem every_baud_tried_twice :
    (((triedBauds [57600, 115200] 0 [.finished (.ok ()) 0, .slept (Duration.fromSecs 1),
      .finished (.ok ()) (Duration.fromSecs 1), .slept (Duration.fromSecs 3)]).drop 1).take 2).Perm
      ([57600, 115200].map .ok) :=
  every_baud_tried [57600, 115200] (by simp) 0 _ (by decide) 1 (by decide)

end MavRouter.Orchestration
