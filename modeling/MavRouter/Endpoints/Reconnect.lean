import Mathlib.Algebra.GroupWithZero.Nat
import Mathlib.Data.Nat.Basic
import MavRouter.Router
import MavRouter.Shared.Backoff
import MavRouter.Shared.Runs

set_option autoImplicit false

namespace MavRouter.Endpoints

open Runs

/-- With whole seconds and whole multipliers, the only ones there are, the way through f64 is exact. -/
structure ExponentialBackoff where
  current : Duration
  min : Duration
  max : Duration
  multiplier : Nat

namespace ExponentialBackoff

def new (min max : Duration) (multiplier : Nat) : ExponentialBackoff := { current := min, min, max, multiplier }

def nextBackoff (backoff : ExponentialBackoff) : Duration × ExponentialBackoff :=
  (backoff.current, { backoff with current := Nat.min backoff.max (backoff.current * backoff.multiplier) })

def reset (backoff : ExponentialBackoff) : ExponentialBackoff := { backoff with current := backoff.min }

end ExponentialBackoff

def doubling (least cap : Duration) (fits : least ≤ cap) : Backoff.Policy Duration where
  least := least
  cap := cap
  longer current := current * 2
  mono _ _ smaller := Nat.mul_le_mul_right 2 smaller
  fits := fits
  grows := Nat.le_mul_of_pos_right cap (by decide)

theorem doubling_delay (least cap : Duration) (fits : least ≤ cap) (count : Nat) :
    (doubling least cap fits).delay count = min cap (least * 2 ^ count) := by
  have grown : (fun current : Duration => current * 2)^[count] least = least * 2 ^ count := by
    induction count with
    | zero => simp
    | succ count ih => rw [Function.iterate_succ_apply', ih, Nat.mul_assoc, Nat.pow_succ]
  exact congrArg (min cap) grown

structure Doubles (policy : Backoff.Policy Duration) (rounds : List Bool) (backoff : ExponentialBackoff) : Prop where
  least : backoff.min = policy.least
  cap : backoff.max = policy.cap
  longer : policy.longer = fun current => current * backoff.multiplier
  current : backoff.current = policy.kept rounds

theorem Doubles.round {policy : Backoff.Policy Duration} {rounds : List Bool} {backoff : ExponentialBackoff}
    (doubles : Doubles policy rounds backoff) (resets : Bool) :
    let round := (if resets then backoff.reset else backoff).nextBackoff
    round.1 = policy.delay (if resets then 0 else Backoff.streak rounds) ∧
      Doubles policy (rounds ++ [resets]) round.2 := by
  have kept : policy.kept (rounds ++ [resets]) = (policy.round (policy.kept rounds) resets).2 := by
    simp [Backoff.Policy.kept]
  rw [← Backoff.round_delay policy rounds resets]
  cases resets with
  | false =>
    refine ⟨doubles.current, doubles.least, doubles.cap, doubles.longer, ?_⟩
    rw [kept]
    simp only [Bool.false_eq_true, if_false, ExponentialBackoff.nextBackoff, Backoff.Policy.round, Backoff.Policy.next,
      doubles.longer, doubles.cap, doubles.current]
  | true =>
    refine ⟨doubles.least, doubles.least, doubles.cap, doubles.longer, ?_⟩
    rw [kept]
    simp only [if_true, ExponentialBackoff.nextBackoff, ExponentialBackoff.reset, Backoff.Policy.round,
      Backoff.Policy.next, doubles.longer, doubles.cap, doubles.least]

theorem doubles_new (least cap : Duration) (fits : least ≤ cap) :
    Doubles (doubling least cap fits) [] (ExponentialBackoff.new least cap 2) := ⟨rfl, rfl, rfl, rfl⟩

inductive ClientPhase where
  | connecting
  | connected
  | waiting (wait : Duration)
  | stopped
  deriving DecidableEq, Repr

structure TcpClient where
  backoff : ExponentialBackoff
  cancelled : Bool
  phase : ClientPhase

inductive ClientEvent where
  | connected
  | refused
  | lost
  | slept
  | cancel
  deriving DecidableEq, Repr

namespace TcpClient

def start : TcpClient where
  backoff := .new (Duration.fromSecs 1) (Duration.fromSecs 60) 2
  cancelled := false
  phase := .connecting

def pause (client : TcpClient) : TcpClient :=
  let (wait, backoff) := client.backoff.nextBackoff
  { client with backoff, phase := if client.cancelled then .stopped else .waiting wait }

def step (client : TcpClient) (event : ClientEvent) : TcpClient :=
  match client.phase, event with
  | .connecting, .connected => { client with backoff := client.backoff.reset, phase := .connected }
  | .connecting, .refused => client.pause
  | .connected, .lost => client.pause
  | .waiting _, .slept => { client with phase := if client.cancelled then .stopped else .connecting }
  | .waiting _, .cancel => { client with cancelled := true, phase := .stopped }
  | _, .cancel => { client with cancelled := true }
  | _, _ => client

def emit (client : TcpClient) (event : ClientEvent) : Option (Bool × Duration) :=
  match client.phase, event with
  | .connecting, .refused => some (false, client.backoff.nextBackoff.1)
  | .connected, .lost => some (true, client.backoff.nextBackoff.1)
  | _, _ => none

def policy : Backoff.Policy Duration := doubling (Duration.fromSecs 1) (Duration.fromSecs 60) (by decide)

def Keeps (client : TcpClient) (rounds : List Bool) : Prop :=
  ∃ backoff, Doubles policy rounds backoff ∧
    client.backoff = if client.phase = .connected then backoff.reset else backoff

theorem Keeps.silent (client : TcpClient) (rounds : List Bool) (event : ClientEvent) (keeps : client.Keeps rounds)
    (quiet : client.emit event = none) : (client.step event).Keeps rounds := by
  obtain ⟨backoff, doubles, same⟩ := keeps
  refine ⟨backoff, doubles, ?_⟩
  cases phase : client.phase <;> cases event <;> simp [emit, step, phase, same] at quiet ⊢
  split_ifs <;> simp

theorem Keeps.turns (client : TcpClient) (rounds : List Bool) (event : ClientEvent) (resets : Bool) (wait : Duration)
    (keeps : client.Keeps rounds) (turn : client.emit event = some (resets, wait)) :
    wait = policy.delay (if resets then 0 else Backoff.streak rounds) ∧
      (client.step event).Keeps (rounds ++ [resets]) := by
  obtain ⟨backoff, doubles, same⟩ := keeps
  obtain ⟨delay, later⟩ := doubles.round resets
  have paused (made : client.backoff = if resets then backoff.reset else backoff) :
      client.pause.Keeps (rounds ++ [resets]) := by
    refine ⟨_, later, ?_⟩
    rw [pause, made]
    cases client.cancelled <;> simp
  cases phase : client.phase <;> cases event <;> simp [emit, phase] at turn
  all_goals
    obtain ⟨rfl, rfl⟩ := turn
    simp only [phase, if_true, if_false, reduceCtorEq] at same
    simp only [step, phase]
    exact ⟨same ▸ delay, paused same⟩

end TcpClient

theorem TcpClient.stops_cancelled (events : List ClientEvent) :
    ((events.foldl TcpClient.step .start).cancelled = true → .cancel ∈ events) ∧
      ((events.foldl TcpClient.step .start).phase = .stopped →
        (events.foldl TcpClient.step .start).cancelled = true) := by
  apply run_history TcpClient.step .start (fun events client =>
    (client.cancelled = true → .cancel ∈ events) ∧ (client.phase = .stopped → client.cancelled = true))
  · simp [TcpClient.start]
  · rintro events event ⟨token, stopped⟩
    generalize events.foldl TcpClient.step .start = client at token stopped ⊢
    rw [List.mem_append]
    cases phase : client.phase <;> cases event <;> simp_all [TcpClient.step, TcpClient.pause]

theorem client_paced (events : List ClientEvent) :
    (∀ older resets wait newer,
      Backoff.log TcpClient.emit TcpClient.step .start events = older ++ (resets, wait) :: newer →
      wait = min (Duration.fromSecs 60)
        (Duration.fromSecs 1 * 2 ^ if resets then 0 else Backoff.streak (older.map Prod.fst))) ∧
      ((events.foldl TcpClient.step .start).phase = .stopped → .cancel ∈ events) := by
  obtain ⟨token, stopped⟩ := TcpClient.stops_cancelled events
  refine ⟨?_, fun ended => token (stopped ended)⟩
  intro older resets wait newer split
  have paced := (Backoff.run_paced TcpClient.policy TcpClient.emit TcpClient.step TcpClient.Keeps .start
    ⟨_, doubles_new _ _ (by decide), rfl⟩ TcpClient.Keeps.silent TcpClient.Keeps.turns events).1
  rw [paced older resets wait newer split, TcpClient.policy, doubling_delay]

example : Backoff.log TcpClient.emit TcpClient.step .start
    [.refused, .slept, .refused, .slept, .connected, .lost, .slept, .refused] =
    [(false, Duration.fromSecs 1), (false, Duration.fromSecs 2), (true, Duration.fromSecs 1),
      (false, Duration.fromSecs 2)] := by decide

end MavRouter.Endpoints
