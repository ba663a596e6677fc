import Mathlib.Data.Nat.Basic
import MavRouter.Ingress.Publication
import MavRouter.Shared.Broadcast

set_option autoImplicit false

namespace MavRouter.Network

open Framing Ingress Routing Runs

variable {M : Type} [Message M]

/-- What recv said to the send loop of a link, with the routing table and the token as they were then. -/
structure Taken where
  reception : Broadcast.Reception RoutedMessage
  routingTable : RoutingTable
  cancelled : Bool

/-- A connection with its receiver of the bus, and what the code does not keep: where that began and what it got. -/
structure Link where
  core : EndpointCore
  opened : Bool
  next : Nat
  since : Nat
  taken : List Taken

structure System where
  router : RouterState
  channel : Broadcast.Channel RoutedMessage
  capacity : Nat
  links : List Link

inductive Step (M : Type) where
  | connect (core : EndpointCore)
  | disconnect (i : Nat)
  | incoming (i : Nat) (frame : MavlinkFrame M) (now : Instant) (timestampUs : UInt64)
  | recvNextBusMsg (i : Nat) (cancelled : Bool)
  | rotateShard (shard : Fin numShards)
  | recvRouteUpdate
  | applyRouteUpdate (clock : Instant)
  | prune (now : Instant) (maxAge : Duration)
  | subscribe
  | unsubscribe

def countLag (stats : EndpointStats) (reception : Broadcast.Reception RoutedMessage) : EndpointStats :=
  match reception with
  | .lagged n => { stats with busLagged := stats.busLagged + n.toUInt64 }
  | _ => stats

-- One turn of the loop in recv_next_bus_msg.
def Link.recv (channel : Broadcast.Channel RoutedMessage) (capacity : Nat) (router : RouterState) (cancelled : Bool)
    (link : Link) : Link :=
  let received := channel.recv capacity router.bus.sent link.next
  { link with next := received.2, taken := link.taken ++ [⟨received.1, router.routingTable, cancelled⟩] }

namespace System

def start (channel : Broadcast.Channel RoutedMessage) (routingTable : RoutingTable) (dedupPeriod : Duration)
    (busCapacity : Nat) : System where
  router :=
    { bus := { sent := [], receivers := 0 }
      routingTable
      routeUpdates := { pending := [], capacity := routeUpdateQueueCapacity, closed := false }
      dedup := ConcurrentDedup.new dedupPeriod
      stats := fun _ => ⟨0, 0, 0, 0, 0, 0⟩ }
  channel := channel
  capacity := busCapacity
  links := []

def sent (system : System) : List RoutedMessage := system.router.bus.sent

def link (system : System) (i : Nat) : Option Link := system.links[i]?.filter Link.opened

-- The link's next call of recv takes that message off the bus.
def Takes (system : System) (i : Nat) (msg : RoutedMessage) : Prop :=
  ∃ link, system.link i = some link ∧
    (system.channel.recv system.capacity system.sent link.next).1 = .message msg

def connect (system : System) (core : EndpointCore) : System :=
  { system with
    router := { system.router with
      bus := { system.router.bus with receivers := system.router.bus.receivers + 1 } }
    links := system.links ++ [⟨core, true, system.sent.length, system.sent.length, []⟩] }

def disconnect (system : System) (i : Nat) : System :=
  match system.link i with
  | none => system
  | some link =>
    { system with
      router := { system.router with
        bus := { system.router.bus with receivers := system.router.bus.receivers - 1 } }
      links := system.links.set i { link with opened := false } }

def incoming (ahash : List UInt8 → UInt64) (system : System) (i : Nat) (frame : MavlinkFrame M) (now : Instant)
    (timestampUs : UInt64) : System :=
  match system.link i with
  | none => system
  | some link =>
    { system with router := link.core.handleIncomingFrame ahash frame now timestampUs system.router }

def recvNextBusMsg (system : System) (i : Nat) (cancelled : Bool) : System :=
  match system.link i with
  | none => system
  | some link =>
    let reception := (system.channel.recv system.capacity system.sent link.next).1
    { system with
      router := { system.router with
        stats := Function.update system.router.stats link.core.stats
          (countLag (system.router.stats link.core.stats) reception) }
      links := system.links.set i (link.recv system.channel system.capacity system.router cancelled) }

def step (ahash : List UInt8 → UInt64) (system : System) : Step M → System
  | .connect core => system.connect core
  | .disconnect i => system.disconnect i
  | .incoming i frame now timestampUs => system.incoming ahash i frame now timestampUs
  | .recvNextBusMsg i cancelled => system.recvNextBusMsg i cancelled
  | .rotateShard shard => { system with router := RouterOp.apply (M := M) ahash system.router (.rotateShard shard) }
  | .recvRouteUpdate => { system with router := RouterOp.apply (M := M) ahash system.router .recvRouteUpdate }
  | .applyRouteUpdate clock =>
    { system with router := RouterOp.apply (M := M) ahash system.router (.applyRouteUpdate clock) }
  | .prune now maxAge => { system with router := RouterOp.apply (M := M) ahash system.router (.prune now maxAge) }
  | .subscribe => { system with router := RouterOp.apply (M := M) ahash system.router .subscribe }
  | .unsubscribe => { system with router := RouterOp.apply (M := M) ahash system.router .unsubscribe }

def run (ahash : List UInt8 → UInt64) (system : System) (steps : List (Step M)) : System :=
  steps.foldl (step ahash) system

theorem run_append (ahash : List UInt8 → UInt64) (system : System) (older newer : List (Step M)) :
    system.run ahash (older ++ newer) = (system.run ahash older).run ahash newer :=
  List.foldl_append

end System

inductive Moves (ahash : List UInt8 → UInt64) (system later : System) : Step M → Prop where
  | connect (core : EndpointCore) (same : later.sent = system.sent)
      (links : later.links = system.links ++ [⟨core, true, system.sent.length, system.sent.length, []⟩]) :
      Moves ahash system later (.connect core)
  | disconnect (i : Nat) (link : Link) (found : system.links[i]? = some link) (same : later.sent = system.sent)
      (links : later.links = system.links.set i { link with opened := false }) :
      Moves ahash system later (.disconnect i)
  | published (i : Nat) (frame : MavlinkFrame M) (now : Instant) (timestampUs : UInt64) (link : Link)
      (found : system.link i = some link) (publishes : Publishes ahash system.router link.core frame now timestampUs)
      (sent : later.sent = system.sent ++ [link.core.routed frame timestampUs]) (links : later.links = system.links) :
      Moves ahash system later (.incoming i frame now timestampUs)
  | received (i : Nat) (cancelled : Bool) (link : Link) (found : system.link i = some link)
      (same : later.sent = system.sent)
      (links : later.links = system.links.set i (link.recv system.channel system.capacity system.router cancelled)) :
      Moves ahash system later (.recvNextBusMsg i cancelled)
  | other (op : Step M) (same : later.sent = system.sent) (links : later.links = system.links) :
      Moves ahash system later op

theorem link_some {system : System} {i : Nat} {link : Link} (found : system.link i = some link) :
    system.links[i]? = some link ∧ link.opened = true := by
  simpa [System.link, Option.filter_eq_some_iff] using found

theorem step_moves (ahash : List UInt8 → UInt64) (system : System) (op : Step M) :
    Moves ahash system (system.step ahash op) op := by
  cases op with
  | connect core => exact .connect core rfl rfl
  | disconnect i =>
    cases found : system.link i with
    | none =>
      exact .other _ (by simp [System.step, System.disconnect, found])
        (by simp [System.step, System.disconnect, found])
    | some link =>
      refine .disconnect i link (link_some found).1 ?_ ?_ <;> simp [System.step, System.disconnect, found, System.sent]
  | incoming i frame now timestampUs =>
    cases found : system.link i with
    | none =>
      exact .other _ (by simp [System.step, System.incoming, found])
        (by simp [System.step, System.incoming, found])
    | some link =>
      by_cases publishes : Publishes ahash system.router link.core frame now timestampUs
      · refine .published i frame now timestampUs link found publishes ?_ ?_
        · simpa [System.step, System.incoming, found, System.sent, Publishes] using publishes
        · simp [System.step, System.incoming, found]
      · refine .other _ ?_ ?_
        · have silent := handleIncomingFrame_cases ahash link.core frame now timestampUs system.router
          rw [publishes_iff] at publishes
          simp only [System.step, System.incoming, found, System.sent]
          cases silent with
          | inl refused => rw [refused.2]
          | inr checked =>
            have held : isDuplicate ahash system.router frame = true ∨ system.router.bus.receivers = 0 := by
              cases duplicate : isDuplicate ahash system.router frame <;> simp_all
            rw [checked.2.2, if_pos held, List.append_nil]
        · simp [System.step, System.incoming, found]
  | recvNextBusMsg i cancelled =>
    cases found : system.link i with
    | none =>
      exact .other _ (by simp [System.step, System.recvNextBusMsg, found])
        (by simp [System.step, System.recvNextBusMsg, found])
    | some link =>
      refine .received i cancelled link found ?_ ?_ <;> simp [System.step, System.recvNextBusMsg, found, System.sent]
  | rotateShard shard => exact .other _ rfl rfl
  | recvRouteUpdate =>
    obtain ⟨queue, batch, received, _⟩ := recvRouteUpdate_cases (M := M) ahash system.router
    exact .other _ (by simp [System.step, System.sent, received]) rfl
  | applyRouteUpdate clock =>
    rcases applyRouteUpdate_cases (M := M) ahash system.router clock with ⟨same, _⟩ | ⟨update, rest, _, applied⟩
    · exact .other _ (by simp [System.step, System.sent, same]) rfl
    · exact .other _ (by simp [System.step, System.sent, applied]) rfl
  | prune now maxAge => exact .other _ rfl rfl
  | subscribe => exact .other _ rfl rfl
  | unsubscribe => exact .other _ rfl rfl

end MavRouter.Network
