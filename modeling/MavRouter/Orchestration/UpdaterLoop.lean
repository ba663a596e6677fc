import MavRouter.Ingress.Learning

set_option autoImplicit false

namespace MavRouter.Orchestration

open Ingress Routing Runs

inductive UpdaterPhase where
  | selecting
  | batching (batch : List RouteUpdate)
  | applying (batch : List RouteUpdate)
  | ended
  deriving DecidableEq, Repr

structure RoutingUpdater where
  routingTable : RoutingTable
  queue : RouteQueue
  -- How many clones of the sender there are.
  senders : Nat
  cancelled : Bool
  nextTick : Instant
  phase : UpdaterPhase
  -- What the code does not keep: what try_send has taken, and what was done to the table.
  accepted : List RouteUpdate
  history : List TableOp

inductive UpdaterEvent where
  | trySend (update : RouteUpdate)
  | cloneSender
  | dropSender
  | cancel
  | poll (now : Instant)

namespace RoutingUpdater

-- The first tick of the interval is over at once, and skipped.
def start (routingTable : RoutingTable) (pruneInterval : Duration) (now : Instant) : RoutingUpdater where
  routingTable := routingTable
  queue := { pending := [], capacity := routeUpdateQueueCapacity, closed := false }
  senders := 1
  cancelled := false
  nextTick := now + pruneInterval
  phase := .selecting
  accepted := []
  history := []

def exit (u : RoutingUpdater) : RoutingUpdater :=
  { u with queue := { u.queue with closed := true }, phase := .ended }

def write (u : RoutingUpdater) (op : TableOp) : RoutingUpdater :=
  { u with routingTable := op.apply u.routingTable, history := u.history ++ [op] }

-- The select is biased: the token, then the channel, then the interval, whose ticks come in a burst when it is late.
def select (pruneTtl pruneInterval : Duration) (u : RoutingUpdater) (now : Instant) : RoutingUpdater :=
  if u.cancelled then u.exit
  else
    match u.queue.pending with
    | first :: rest => { u with queue := { u.queue with pending := rest }, phase := .batching [first] }
    | [] =>
      if u.senders = 0 then u.exit
      else if u.nextTick ≤ now then { u.write (.prune now pruneTtl) with nextTick := u.nextTick + pruneInterval }
      else u

def poll (pruneTtl pruneInterval : Duration) (u : RoutingUpdater) (now : Instant) : RoutingUpdater :=
  match u.phase with
  | .selecting => u.select pruneTtl pruneInterval now
  | .batching batch =>
    if batch.length < routeUpdateBatchSize then
      match u.queue.pending with
      | next :: rest => { u with queue := { u.queue with pending := rest }, phase := .batching (batch ++ [next]) }
      | [] => { u with phase := .applying batch }
    else { u with phase := .applying batch }
  | .applying [] => { u with phase := .selecting }
  | .applying (first :: rest) => { u.write (first.op now) with phase := .applying rest }
  | .ended => u

def step (pruneTtl pruneInterval : Duration) (u : RoutingUpdater) : UpdaterEvent → RoutingUpdater
  | .trySend update =>
    if u.senders = 0 then u
    else
      match u.queue.trySend update with
      | .ok queue => { u with queue, accepted := u.accepted ++ [update] }
      | .error _ => u
  | .cloneSender => if u.senders = 0 then u else { u with senders := u.senders + 1 }
  | .dropSender => { u with senders := u.senders - 1 }
  | .cancel => { u with cancelled := true }
  | .poll now => u.poll pruneTtl pruneInterval now

def run (pruneTtl pruneInterval : Duration) (routingTable : RoutingTable) (begun : Instant)
    (events : List UpdaterEvent) : RoutingUpdater :=
  events.foldl (step pruneTtl pruneInterval) (start routingTable pruneInterval begun)

def inHand (u : RoutingUpdater) : List RouteUpdate :=
  match u.phase with
  | .batching batch => batch
  | .applying batch => batch
  | _ => []

end RoutingUpdater

def updateOf : TableOp → Option RouteUpdate
  | .update endpointId sysid compid now _ => some ⟨endpointId, sysid, compid, now⟩
  | _ => none

def isPrune : TableOp → Bool
  | .prune _ _ => true
  | _ => false

def applied (history : List TableOp) : List RouteUpdate := history.filterMap updateOf

/-- Nothing accepted is lost, doubled or overtaken on its way to the table, and prunes keep to the interval. -/
structure Orderly (routingTable : RoutingTable) (pruneInterval : Duration) (begun : Instant) (u : RoutingUpdater) :
    Prop where
  flow : applied u.history ++ u.inHand ++ u.queue.pending = u.accepted
  written : u.routingTable = routingTable.run u.history
  batch : u.inHand.length ≤ routeUpdateBatchSize
  queued : u.queue.pending.length ≤ u.queue.capacity
  capacity : u.queue.capacity = routeUpdateQueueCapacity
  ticks : u.nextTick = begun + (u.history.countP isPrune + 1) * pruneInterval
  ended : u.phase = .ended → u.queue.closed = true ∧ (u.cancelled = true ∨ u.queue.pending = [])

namespace Orderly

variable {routingTable : RoutingTable} {pruneTtl pruneInterval : Duration} {begun : Instant} {u : RoutingUpdater}

theorem start : Orderly routingTable pruneInterval begun (.start routingTable pruneInterval begun) := by
  constructor <;> simp [RoutingUpdater.start, RoutingUpdater.inHand, applied, RoutingTable.run]

theorem exit (orderly : Orderly routingTable pruneInterval begun u) (selecting : u.phase = .selecting)
    (done : u.cancelled = true ∨ u.queue.pending = []) : Orderly routingTable pruneInterval begun u.exit := by
  have idle : u.inHand = [] := by rw [RoutingUpdater.inHand, selecting]
  have flow := orderly.flow
  rw [idle] at flow
  exact ⟨flow, orderly.written, Nat.zero_le _, orderly.queued, orderly.capacity, orderly.ticks, fun _ => ⟨rfl, done⟩⟩

theorem written_concat (written : u.routingTable = routingTable.run u.history) (op : TableOp) :
    (u.write op).routingTable = routingTable.run (u.write op).history := by
  simp [RoutingUpdater.write, RoutingTable.run, written]

theorem select (orderly : Orderly routingTable pruneInterval begun u) (selecting : u.phase = .selecting)
    (now : Instant) :
    Orderly routingTable pruneInterval begun (u.select pruneTtl pruneInterval now) := by
  have idle : u.inHand = [] := by rw [RoutingUpdater.inHand, selecting]
  have flow := orderly.flow
  have queued := orderly.queued
  rw [idle, List.append_nil] at flow
  rw [RoutingUpdater.select]
  by_cases cancelled : u.cancelled = true
  · rw [if_pos cancelled]
    exact orderly.exit selecting (.inl cancelled)
  rw [if_neg cancelled]
  cases pending : u.queue.pending with
  | cons first rest =>
    rw [pending] at flow queued
    refine ⟨?_, orderly.written, ?_, ?_, orderly.capacity, orderly.ticks, by simp⟩
    · simpa [RoutingUpdater.inHand] using flow
    · simp [RoutingUpdater.inHand, routeUpdateBatchSize]
    · simp only [List.length_cons] at queued
      exact Nat.le_of_succ_le queued
  | nil =>
    rw [pending, List.append_nil] at flow
    dsimp only
    split_ifs with alone due
    · exact orderly.exit selecting (.inr pending)
    · refine ⟨?_, written_concat orderly.written (.prune now pruneTtl), ?_, orderly.queued, orderly.capacity, ?_, ?_⟩
      · simpa [RoutingUpdater.write, RoutingUpdater.inHand, selecting, applied, List.filterMap_cons, updateOf, pending]
          using flow
      · simp [RoutingUpdater.write, RoutingUpdater.inHand, selecting]
      · simp [RoutingUpdater.write, isPrune, orderly.ticks, Nat.succ_mul, Nat.add_assoc]
      · simp [RoutingUpdater.write, selecting]
    · exact orderly

theorem poll (orderly : Orderly routingTable pruneInterval begun u) (now : Instant) :
    Orderly routingTable pruneInterval begun (u.poll pruneTtl pruneInterval now) := by
  have flow := orderly.flow
  have batched := orderly.batch
  have queued := orderly.queued
  rw [RoutingUpdater.poll]
  cases phase : u.phase with
  | selecting => exact orderly.select phase now
  | batching batch =>
    simp only [RoutingUpdater.inHand, phase] at flow batched
    have apply : Orderly routingTable pruneInterval begun { u with phase := .applying batch } :=
      ⟨flow, orderly.written, batched, queued, orderly.capacity, orderly.ticks, by simp⟩
    dsimp only
    split_ifs with room
    · cases pending : u.queue.pending with
      | nil => exact apply
      | cons next rest =>
        rw [pending] at flow queued
        refine ⟨?_, orderly.written, ?_, ?_, orderly.capacity, orderly.ticks, by simp⟩
        · simpa [RoutingUpdater.inHand] using flow
        · simpa [RoutingUpdater.inHand] using Nat.succ_le_of_lt room
        · simp only [List.length_cons] at queued
          exact Nat.le_of_succ_le queued
    · exact apply
  | applying batch =>
    simp only [RoutingUpdater.inHand, phase] at flow batched
    cases batch with
    | nil => exact ⟨flow, orderly.written, batched, queued, orderly.capacity, orderly.ticks, by simp⟩
    | cons first rest =>
      refine ⟨?_, written_concat orderly.written (first.op now), ?_, queued, orderly.capacity, ?_, by simp⟩
      · simpa [RoutingUpdater.write, RoutingUpdater.inHand, applied, RouteUpdate.op, updateOf] using flow
      · simp only [List.length_cons] at batched
        exact Nat.le_of_succ_le batched
      · simpa [RoutingUpdater.write, RouteUpdate.op, isPrune] using orderly.ticks
  | ended => exact orderly

theorem trySend (orderly : Orderly routingTable pruneInterval begun u) (update : RouteUpdate) :
    Orderly routingTable pruneInterval begun (u.step pruneTtl pruneInterval (.trySend update)) := by
  rw [RoutingUpdater.step, RouteQueue.trySend]
  split_ifs with alone closed full
  · exact orderly
  · exact orderly
  · exact orderly
  · refine ⟨?_, orderly.written, orderly.batch, ?_, orderly.capacity, orderly.ticks, ?_⟩
    · simp only [← orderly.flow, List.append_assoc]
      rfl
    · simp only [List.length_append, List.length_singleton]
      omega
    · intro ended
      exact absurd (orderly.ended ended).1 closed

theorem step (orderly : Orderly routingTable pruneInterval begun u) (event : UpdaterEvent) :
    Orderly routingTable pruneInterval begun (u.step pruneTtl pruneInterval event) := by
  have same (senders : Nat) (cancelled : Bool) (kept : u.cancelled = true → cancelled = true) :
      Orderly routingTable pruneInterval begun { u with senders, cancelled } :=
    ⟨orderly.flow, orderly.written, orderly.batch, orderly.queued, orderly.capacity, orderly.ticks,
      fun ended => ⟨(orderly.ended ended).1, (orderly.ended ended).2.imp_left kept⟩⟩
  cases event with
  | trySend update => exact orderly.trySend update
  | cloneSender =>
    rw [RoutingUpdater.step]
    split_ifs
    · exact orderly
    · exact same _ _ id
  | dropSender => exact same _ _ id
  | cancel => exact same _ true fun _ => rfl
  | poll now => exact orderly.poll now

end Orderly

theorem run_orderly (pruneTtl pruneInterval : Duration) (routingTable : RoutingTable) (begun : Instant)
    (events : List UpdaterEvent) :
    Orderly routingTable pruneInterval begun (RoutingUpdater.run pruneTtl pruneInterval routingTable begun events) := by
  apply run_history (RoutingUpdater.step pruneTtl pruneInterval) (.start routingTable pruneInterval begun)
    (fun _ u => Orderly routingTable pruneInterval begun u)
  · exact .start
  · exact fun events event orderly => orderly.step event

theorem updates_in_order (pruneTtl pruneInterval : Duration) (routingTable : RoutingTable) (begun : Instant)
    (events : List UpdaterEvent) :
    let u := RoutingUpdater.run pruneTtl pruneInterval routingTable begun events
    applied u.history ++ u.inHand ++ u.queue.pending = u.accepted ∧ u.routingTable = routingTable.run u.history ∧
      u.inHand.length ≤ routeUpdateBatchSize ∧ u.queue.pending.length ≤ routeUpdateQueueCapacity ∧
      (u.phase = .ended → u.cancelled = false → applied u.history = u.accepted) := by
  intro u
  have orderly : Orderly routingTable pruneInterval begun u :=
    run_orderly pruneTtl pruneInterval routingTable begun events
  refine ⟨orderly.flow, orderly.written, orderly.batch, orderly.capacity ▸ orderly.queued, ?_⟩
  intro ended running
  have drained := (orderly.ended ended).2.resolve_left (by simp [running])
  have flow := orderly.flow
  rwa [drained, RoutingUpdater.inHand, ended, List.append_nil, List.append_nil] at flow

theorem prunes_idle (pruneTtl pruneInterval : Duration) (u : RoutingUpdater) (now : Instant)
    (prunes : (u.poll pruneTtl pruneInterval now).history.countP isPrune ≠ u.history.countP isPrune) :
    u.phase = .selecting ∧ u.cancelled = false ∧ u.queue.pending = [] ∧ u.senders ≠ 0 ∧ u.nextTick ≤ now := by
  rw [RoutingUpdater.poll] at prunes
  cases phase : u.phase with
  | selecting =>
    simp only [phase, RoutingUpdater.select] at prunes
    cases cancelled : u.cancelled with
    | true => simp [cancelled, RoutingUpdater.exit] at prunes
    | false =>
      cases pending : u.queue.pending with
      | cons first rest => simp [cancelled, pending] at prunes
      | nil =>
        simp only [cancelled, pending, Bool.false_eq_true, if_false] at prunes
        split_ifs at prunes with alone due
        · exact absurd rfl prunes
        · exact ⟨rfl, rfl, rfl, alone, due⟩
        · exact absurd rfl prunes
  | batching batch =>
    simp only [phase] at prunes
    split_ifs at prunes
    · cases pending : u.queue.pending <;> simp [pending] at prunes
    · exact absurd rfl prunes
  | applying batch =>
    cases batch with
    | nil => simp [phase] at prunes
    | cons first rest => simp [phase, RoutingUpdater.write, RouteUpdate.op, isPrune] at prunes
  | ended => simp [phase] at prunes

theorem prunes_see_everything (pruneTtl pruneInterval : Duration) (routingTable : RoutingTable) (begun : Instant)
    (events : List UpdaterEvent) (now : Instant) :
    let before := RoutingUpdater.run pruneTtl pruneInterval routingTable begun events
    let later := RoutingUpdater.run pruneTtl pruneInterval routingTable begun (events ++ [.poll now])
    later.history.countP isPrune ≠ before.history.countP isPrune →
      applied before.history = before.accepted ∧ later.history = before.history ++ [.prune now pruneTtl] ∧
        begun + later.history.countP isPrune * pruneInterval ≤ now := by
  intro before later prunes
  have orderly : Orderly routingTable pruneInterval begun before :=
    run_orderly pruneTtl pruneInterval routingTable begun events
  have polled : later = before.poll pruneTtl pruneInterval now := by
    simp [later, before, RoutingUpdater.run, RoutingUpdater.step]
  rw [polled] at prunes ⊢
  obtain ⟨selecting, running, pending, held, due⟩ := prunes_idle pruneTtl pruneInterval before now prunes
  have written : (before.poll pruneTtl pruneInterval now).history = before.history ++ [.prune now pruneTtl] := by
    simp [RoutingUpdater.poll, selecting, RoutingUpdater.select, running, pending, held, due, RoutingUpdater.write]
  refine ⟨?_, written, ?_⟩
  · have flow := orderly.flow
    rwa [pending, RoutingUpdater.inHand, selecting, List.append_nil, List.append_nil] at flow
  · rw [orderly.ticks] at due
    simpa [written, isPrune] using due

def appliedInTime : List UpdaterEvent := [.trySend ⟨⟨0⟩, 1, 1, 0⟩, .poll 10, .poll 10, .poll 10, .poll 10]

theorem prunes_see_everything_first :
    let before := RoutingUpdater.run 300 60 RoutingTable.new 0 appliedInTime
    before.accepted = [⟨⟨0⟩, 1, 1, 0⟩] ∧ applied before.history = before.accepted ∧
      (RoutingUpdater.run 300 60 RoutingTable.new 0 (appliedInTime ++ [.poll 60])).history =
        before.history ++ [.prune 60 300] := by
  intro before
  obtain ⟨seen, pruned, _⟩ := prunes_see_everything 300 60 RoutingTable.new 0 appliedInTime 60 (by decide +kernel)
  exact ⟨rfl, seen, pruned⟩

-- As long as there are observations to take, no prune that is due is made.
example : (RoutingUpdater.run 300 60 RoutingTable.new 0 [.trySend ⟨⟨0⟩, 1, 1, 0⟩, .poll 90, .trySend ⟨⟨1⟩, 1, 1, 0⟩,
    .poll 90, .poll 90, .poll 90, .poll 90, .poll 90]).history.countP isPrune = 0 := by decide +kernel

end MavRouter.Orchestration
