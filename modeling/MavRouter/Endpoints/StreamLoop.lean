import Mathlib.Data.UInt
import MavRouter.Endpoints.Tlog

set_option autoImplicit false

namespace MavRouter.Endpoints.StreamLoop

open Ingress Routing Tlog

/-- What recv or try_recv answers; to recv, empty means that it goes on waiting. -/
inductive Reception where
  | message (msg : RoutedMessage)
  | lagged (n : UInt64)
  | empty
  | closed

/-- An answer of the receiver, with the routing table and the token as they are at that moment. -/
structure Delivery where
  reception : Reception
  routingTable : RoutingTable
  cancelled : Bool

def batchSize : Nat := 1024

structure StreamState (W : Type) where
  writer : W
  stats : EndpointStats
  batch : Option Nat
  returned : Option (Except RouterError Unit)

variable {W : Type}

namespace StreamState

def fails (s : StreamState W) (name : String) (later : W) (e : IoError) : StreamState W :=
  { s with
    writer := later
    stats := { s.stats with errors := s.stats.errors + 1 }
    returned := some (.error (.network name e)) }

def write (writer : Writer W) (name : String) (msg : RoutedMessage) (s : StreamState W) : StreamState W :=
  match writer.writeAll s.writer msg.serializedBytes with
  | (.error e, later) => s.fails name later e
  | (.ok _, later) =>
    { s with writer := later, stats := s.stats.recordOutgoing msg.serializedBytes.length.toUInt64 }

def flush (writer : Writer W) (name : String) (s : StreamState W) : StreamState W :=
  match writer.flush s.writer with
  | (.error e, later) => s.fails name later e
  | (.ok _, later) => { s with writer := later, batch := none }

def lagged (n : UInt64) (s : StreamState W) : StreamState W :=
  { s with stats := { s.stats with busLagged := s.stats.busLagged + n } }

def nextTry (writer : Writer W) (name : String) (left : Nat) (s : StreamState W) : StreamState W :=
  if s.returned.isSome then s
  else if left = 0 then s.flush writer name
  else { s with batch := some (left - 1) }

def recv (writer : Writer W) (core : EndpointCore) (name : String) (delivery : Delivery) (s : StreamState W) :
    StreamState W :=
  match delivery.reception with
  | .empty => s
  | .lagged n => s.lagged n
  | .closed => { s with returned := some (.ok ()) }
  | .message msg =>
    if delivery.cancelled then { s with returned := some (.ok ()) }
    else if !core.checkOutgoing delivery.routingTable msg then s
    else { s.write writer name msg with batch := some (batchSize - 1) }

def tryRecv (writer : Writer W) (core : EndpointCore) (name : String) (left : Nat) (delivery : Delivery)
    (s : StreamState W) : StreamState W :=
  match delivery.reception with
  | .empty => s.flush writer name
  | .lagged n => (s.lagged n).nextTry writer name left
  -- Without a flush.
  | .closed => { s with returned := some (.ok ()) }
  | .message msg =>
    (if core.checkOutgoing delivery.routingTable msg then s.write writer name msg else s).nextTry writer name left

def step (writer : Writer W) (core : EndpointCore) (name : String) (s : StreamState W) (delivery : Delivery) :
    StreamState W :=
  if s.returned.isSome then s
  else
    match s.batch with
    | none => s.recv writer core name delivery
    | some left => s.tryRecv writer core name left delivery

end StreamState

def run (writer : Writer W) (core : EndpointCore) (name : String) (created : W) (stats : EndpointStats)
    (deliveries : List Delivery) : StreamState W :=
  deliveries.foldl (StreamState.step writer core name) { writer := created, stats, batch := none, returned := none }

def Delivery.accepted (core : EndpointCore) (delivery : Delivery) : Option RoutedMessage :=
  match delivery.reception with
  | .message msg => if core.checkOutgoing delivery.routingTable msg then some msg else none
  | _ => none

def Delivery.lag (delivery : Delivery) : Nat :=
  match delivery.reception with
  | .lagged n => n.toNat
  | _ => 0

def accepted (core : EndpointCore) (deliveries : List Delivery) : List RoutedMessage :=
  deliveries.filterMap (Delivery.accepted core)

def bytesOf (msgs : List RoutedMessage) : List UInt8 := msgs.flatMap RoutedMessage.serializedBytes

def account (core : EndpointCore) (stats : EndpointStats) (deliveries : List Delivery) : EndpointStats :=
  { stats with
    msgsOut := stats.msgsOut + UInt64.ofNat (accepted core deliveries).length
    bytesOut := stats.bytesOut + UInt64.ofNat (bytesOf (accepted core deliveries)).length
    busLagged := stats.busLagged + UInt64.ofNat (deliveries.map Delivery.lag).sum }

def Delivery.Open (delivery : Delivery) : Prop := delivery.reception ≠ .closed ∧ delivery.cancelled = false

def StreamState.Fine (s : StreamState W) : Prop := ∀ e, s.returned ≠ some (.error e)

/-- The loop runs, and has written and counted what one message at a time would have. -/
structure Written (file held : W → List UInt8) (core : EndpointCore) (stats : EndpointStats)
    (deliveries : List Delivery) (s : StreamState W) : Prop where
  running : s.returned = none
  written : file s.writer ++ held s.writer = bytesOf (accepted core deliveries)
  counted : s.stats = account core stats deliveries

structure Delivered (file held : W → List UInt8) (core : EndpointCore) (stats : EndpointStats)
    (deliveries : List Delivery) (s : StreamState W) : Prop extends Written file held core stats deliveries s where
  flushed : s.batch = none → held s.writer = []

theorem accepted_concat (core : EndpointCore) (deliveries : List Delivery) (delivery : Delivery) :
    accepted core (deliveries ++ [delivery]) = accepted core deliveries ++ (delivery.accepted core).toList := by
  rw [accepted, List.filterMap_append]
  cases taken : delivery.accepted core <;> simp [accepted, taken]

theorem account_concat (core : EndpointCore) (stats : EndpointStats) (deliveries : List Delivery)
    (delivery : Delivery) :
    account core stats (deliveries ++ [delivery]) =
      { account core stats deliveries with
        msgsOut := (account core stats deliveries).msgsOut + UInt64.ofNat (delivery.accepted core).toList.length
        bytesOut := (account core stats deliveries).bytesOut +
          UInt64.ofNat (bytesOf (delivery.accepted core).toList).length
        busLagged := (account core stats deliveries).busLagged + UInt64.ofNat delivery.lag } := by
  simp only [account, accepted_concat, bytesOf, List.flatMap_append, List.length_append, List.map_append,
    List.sum_append, List.map_cons, List.map_nil, List.sum_cons, List.sum_nil, Nat.add_zero, UInt64.ofNat_add,
    UInt64.add_assoc]

section Writing

variable {writer : Writer W} {file held : W → List UInt8} {core : EndpointCore} {stats : EndpointStats}
  {deliveries : List Delivery} {s : StreamState W} (name : String)

theorem Written.batch (written : Written file held core stats deliveries s) (batch : Option Nat) :
    Written file held core stats deliveries { s with batch } :=
  ⟨written.running, written.written, written.counted⟩

theorem Written.skip (written : Written file held core stats deliveries s) (delivery : Delivery)
    (refused : delivery.accepted core = none) (lag : delivery.lag = 0) :
    Written file held core stats (deliveries ++ [delivery]) s where
  running := written.running
  written := by simp [accepted_concat, refused, written.written]
  counted := by
    rw [account_concat, refused, lag, ← written.counted]
    simp [bytesOf]

theorem Written.lagged (written : Written file held core stats deliveries s) (delivery : Delivery) (n : UInt64)
    (lags : delivery.reception = .lagged n) : Written file held core stats (deliveries ++ [delivery]) (s.lagged n) where
  running := written.running
  written := by
    have refused : delivery.accepted core = none := by simp [Delivery.accepted, lags]
    simp [accepted_concat, refused, StreamState.lagged, written.written]
  counted := by
    have refused : delivery.accepted core = none := by simp [Delivery.accepted, lags]
    rw [account_concat, refused, ← written.counted]
    simp [bytesOf, StreamState.lagged, Delivery.lag, lags]

variable (buffers : Buffers writer file held)

include buffers

theorem Written.write (written : Written file held core stats deliveries s) (delivery : Delivery) (msg : RoutedMessage)
    (accepted : delivery.accepted core = some msg) (lag : delivery.lag = 0) (fine : (s.write writer name msg).Fine) :
    Written file held core stats (deliveries ++ [delivery]) (s.write writer name msg) := by
  rw [StreamState.write] at fine ⊢
  rcases done : writer.writeAll s.writer msg.serializedBytes with ⟨_ | _, later⟩
  · simp [done, StreamState.fails, StreamState.Fine] at fine
  · have grown := buffers.written _ _ _ done
    refine ⟨written.running, ?_, ?_⟩
    · simp only [grown, accepted_concat, accepted, Option.toList_some, bytesOf, List.flatMap_append, written.written]
      simp
    · rw [account_concat, accepted, lag, ← written.counted]
      simp [bytesOf, EndpointStats.recordOutgoing]

theorem Written.flush (written : Written file held core stats deliveries s) (fine : (s.flush writer name).Fine) :
    Delivered file held core stats deliveries (s.flush writer name) := by
  rw [StreamState.flush] at fine ⊢
  rcases done : writer.flush s.writer with ⟨_ | _, later⟩
  · simp [done, StreamState.fails, StreamState.Fine] at fine
  · obtain ⟨filed, empty⟩ := buffers.flushed _ _ done
    refine ⟨⟨written.running, ?_, written.counted⟩, fun _ => empty⟩
    simp [filed, empty, written.written]

theorem Written.nextTry (written : Written file held core stats deliveries s) (left : Nat)
    (fine : (s.nextTry writer name left).Fine) :
    Delivered file held core stats deliveries (s.nextTry writer name left) := by
  have goes : s.returned.isSome = false := by rw [written.running]; rfl
  rw [StreamState.nextTry, goes] at fine ⊢
  simp only [Bool.false_eq_true, if_false] at fine ⊢
  split_ifs at fine ⊢ with last
  · exact written.flush name buffers fine
  · exact ⟨written.batch _, by simp⟩

theorem Written.recv (written : Written file held core stats deliveries s) (awaited : held s.writer = [])
    (delivery : Delivery) (opened : delivery.Open) (fine : (s.recv writer core name delivery).Fine) :
    Delivered file held core stats (deliveries ++ [delivery]) (s.recv writer core name delivery) := by
  obtain ⟨kept, token⟩ := opened
  cases reception : delivery.reception with
  | closed => exact absurd reception kept
  | empty =>
    simp only [StreamState.recv, reception]
    exact ⟨written.skip delivery (by simp [Delivery.accepted, reception]) (by simp [Delivery.lag, reception]),
      fun _ => awaited⟩
  | lagged n =>
    simp only [StreamState.recv, reception]
    exact ⟨written.lagged delivery n reception, fun _ => awaited⟩
  | message msg =>
    have lag : delivery.lag = 0 := by simp [Delivery.lag, reception]
    simp only [StreamState.recv, reception, token, Bool.false_eq_true, if_false, Bool.not_eq_true'] at fine ⊢
    split_ifs at fine ⊢ with refused
    · exact ⟨written.skip delivery (by simp [Delivery.accepted, reception, refused]) lag, fun _ => awaited⟩
    · rw [Bool.not_eq_false] at refused
      have later := written.write name buffers delivery msg (by simp [Delivery.accepted, reception, refused]) lag fine
      exact ⟨later.batch _, by simp⟩

theorem Written.tryRecv (written : Written file held core stats deliveries s) (left : Nat) (delivery : Delivery)
    (opened : delivery.Open) (fine : (s.tryRecv writer core name left delivery).Fine) :
    Delivered file held core stats (deliveries ++ [delivery]) (s.tryRecv writer core name left delivery) := by
  cases reception : delivery.reception with
  | closed => exact absurd reception opened.1
  | empty =>
    have skipped := written.skip delivery (by simp [Delivery.accepted, reception]) (by simp [Delivery.lag, reception])
    simp only [StreamState.tryRecv, reception] at fine ⊢
    exact skipped.flush name buffers fine
  | lagged n =>
    simp only [StreamState.tryRecv, reception] at fine ⊢
    exact (written.lagged delivery n reception).nextTry name buffers left fine
  | message msg =>
    have lag : delivery.lag = 0 := by simp [Delivery.lag, reception]
    simp only [StreamState.tryRecv, reception] at fine ⊢
    by_cases passes : core.checkOutgoing delivery.routingTable msg = true
    · rw [if_pos passes] at fine ⊢
      have sound : (s.write writer name msg).Fine := by
        intro e failed
        simp only [StreamState.nextTry, failed, Option.isSome_some, if_true] at fine
        exact fine e failed
      exact (written.write name buffers delivery msg (by simp [Delivery.accepted, reception, passes]) lag
        sound).nextTry name buffers left fine
    · rw [if_neg passes] at fine ⊢
      exact (written.skip delivery (by simp [Delivery.accepted, reception, passes]) lag).nextTry name buffers left fine

theorem Delivered.step (delivered : Delivered file held core stats deliveries s) (delivery : Delivery)
    (opened : delivery.Open) (fine : (s.step writer core name delivery).Fine) :
    Delivered file held core stats (deliveries ++ [delivery]) (s.step writer core name delivery) := by
  have goes : s.returned.isSome = false := by rw [delivered.running]; rfl
  simp only [StreamState.step, goes, Bool.false_eq_true, if_false] at fine ⊢
  cases turn : s.batch with
  | none =>
    rw [turn] at fine
    exact delivered.toWritten.recv name buffers (delivered.flushed turn) delivery opened fine
  | some left =>
    rw [turn] at fine
    exact delivered.toWritten.tryRecv name buffers left delivery opened fine

theorem run_delivered (created : W) (fresh : file created = [] ∧ held created = []) (deliveries : List Delivery)
    (opened : ∀ delivery ∈ deliveries, delivery.Open) (fine : (run writer core name created stats deliveries).Fine) :
    Delivered file held core stats deliveries (run writer core name created stats deliveries) := by
  revert opened fine
  apply Runs.run_history (StreamState.step writer core name)
    { writer := created, stats, batch := none, returned := none }
    (fun deliveries s => (∀ delivery ∈ deliveries, delivery.Open) → s.Fine →
      Delivered file held core stats deliveries s)
  · intro _ _
    refine ⟨⟨rfl, by simp [fresh, accepted, bytesOf], by simp [account, accepted, bytesOf]⟩, fun _ => fresh.2⟩
  · intro older delivery ih opened fine
    generalize List.foldl _ _ older = s at ih fine ⊢
    have sound : s.Fine := by
      intro e failed
      simp only [StreamState.step, failed, Option.isSome_some, if_true] at fine
      exact fine e failed
    have delivered := ih (fun earlier member => opened earlier (List.mem_append_left _ member)) sound
    exact delivered.step name buffers delivery (opened delivery (by simp)) fine

end Writing

theorem batched_egress {writer : Writer W} {file held : W → List UInt8} (buffers : Buffers writer file held)
    (core : EndpointCore) (name : String) (created : W) (fresh : file created = [] ∧ held created = [])
    (stats : EndpointStats) (deliveries : List Delivery)
    (keptOpen : ∀ delivery ∈ deliveries, delivery.reception ≠ .closed)
    (uncancelled : ∀ delivery ∈ deliveries, delivery.cancelled = false)
    (fine : ∀ e, (run writer core name created stats deliveries).returned ≠ some (.error e)) :
    let s := run writer core name created stats deliveries
    let sent := accepted core deliveries
    s.returned = none ∧
    file s.writer ++ held s.writer = sent.flatMap RoutedMessage.serializedBytes ∧
    s.stats = { stats with
      msgsOut := stats.msgsOut + UInt64.ofNat sent.length
      bytesOut := stats.bytesOut + UInt64.ofNat (sent.flatMap RoutedMessage.serializedBytes).length
      busLagged := stats.busLagged + UInt64.ofNat (deliveries.map Delivery.lag).sum } ∧
    (s.batch = none →
      held s.writer = [] ∧ file s.writer = sent.flatMap RoutedMessage.serializedBytes) := by
  intro s sent
  have delivered : Delivered file held core stats deliveries s :=
    run_delivered name buffers created fresh deliveries
      (fun delivery member => ⟨keptOpen delivery member, uncancelled delivery member⟩) fine
  refine ⟨delivered.running, delivered.written, delivered.counted, ?_⟩
  intro awaited
  have empty := delivered.flushed awaited
  refine ⟨empty, ?_⟩
  have written := delivered.written
  rw [empty, List.append_nil] at written
  exact written

def serialCore : EndpointCore := { id := ⟨1⟩, filters := {}, updateRouting := true, stats := 0 }

def lagAndPause : List Delivery :=
  [⟨.message (heartbeatAt 5 Framing.heartbeatV1), RoutingTable.new, false⟩, ⟨.lagged 3, RoutingTable.new, false⟩,
    ⟨.message (heartbeatAt 7 Framing.heartbeatV2), RoutingTable.new, false⟩, ⟨.empty, RoutingTable.new, false⟩]

theorem batched_egress_heartbeats :
    let s := run bufWriter serialCore "/dev/ttyAMA0" ⟨[], []⟩ ⟨0, 0, 0, 0, 0, 0⟩ lagAndPause
    s.writer.inner = Framing.heartbeatV1.bytes ++ Framing.heartbeatV2.bytes ∧ s.stats.busLagged = 3 := by
  intro s
  have open' : ∀ delivery ∈ lagAndPause, delivery.reception ≠ .closed ∧ delivery.cancelled = false := by
    simp [lagAndPause]
  have running : s.returned = none := rfl
  have egress := batched_egress bufWriter_buffers serialCore "/dev/ttyAMA0" ⟨[], []⟩ ⟨rfl, rfl⟩ ⟨0, 0, 0, 0, 0, 0⟩
    lagAndPause (fun delivery member => (open' delivery member).1) (fun delivery member => (open' delivery member).2)
    (fun e failed => by rw [running] at failed; cases failed)
  exact ⟨(egress.2.2.2 rfl).2, congrArg EndpointStats.busLagged egress.2.2.1⟩

end MavRouter.Endpoints.StreamLoop
