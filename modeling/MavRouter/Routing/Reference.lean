import Mathlib.Data.FinEnum
import Mathlib.Data.Fintype.Prod
import Mathlib.Data.Finset.Union
import MavRouter.Routing.Table
import MavRouter.Shared.Sightings

set_option autoImplicit false

namespace MavRouter.Routing

open Sightings

/-- Who belongs together, and which systems make an endpoint a sniffer. -/
structure Policy where
  groupOf : EndpointId → Option String
  members : String → Finset EndpointId
  sniffers : Finset UInt8

def Policy.none : Policy := { groupOf := fun _ => .none, members := fun _ => ∅, sniffers := ∅ }

def Policy.apply (policy : Policy) : TableOp → Policy
  | .setEndpointGroup id group =>
    { policy with
      groupOf := Function.update policy.groupOf id (some group)
      members := Function.update policy.members group (insert id (policy.members group)) }
  | .setSnifferSysids sysids => { policy with sniffers := sysids.toFinset }
  | _ => policy

/-- The routing table without shards, caps or counters: two maps and the policy. -/
structure Reference where
  routes : Board (UInt8 × UInt8) EndpointId
  sysRoutes : Board UInt8 EndpointId
  policy : Policy

def componentView : TableOp → Option (Event (UInt8 × UInt8) EndpointId)
  | .update endpointId sysid compid now _ => some (.seen (sysid, compid) endpointId now)
  | .prune now maxAge => some (.expire now maxAge)
  | _ => none

def systemView : TableOp → Option (Event UInt8 EndpointId)
  | .update endpointId sysid _ now _ => some (.seen sysid endpointId now)
  | .prune now maxAge => some (.expire now maxAge)
  | _ => none

theorem componentView_seen (op : TableOp) (key : UInt8 × UInt8) (endpointId : EndpointId) (time : Nat)
    (seen : componentView op = some (.seen key endpointId time)) :
    ∃ clock, op = .update endpointId key.1 key.2 time clock := by
  cases op with
  | update ep sysid compid now clock =>
    simp only [componentView, Option.some.injEq, Event.seen.injEq] at seen
    obtain ⟨rfl, rfl, rfl⟩ := seen
    exact ⟨clock, rfl⟩
  | prune now maxAge => simp [componentView] at seen
  | setEndpointGroup id group => simp [componentView] at seen
  | setSnifferSysids sysids => simp [componentView] at seen

theorem systemView_seen (op : TableOp) (sysid : UInt8) (endpointId : EndpointId) (time : Nat)
    (seen : systemView op = some (.seen sysid endpointId time)) :
    ∃ compid clock, op = .update endpointId sysid compid time clock := by
  cases op with
  | update ep system compid now clock =>
    simp only [systemView, Option.some.injEq, Event.seen.injEq] at seen
    obtain ⟨rfl, rfl, rfl⟩ := seen
    exact ⟨compid, clock, rfl⟩
  | prune now maxAge => simp [systemView] at seen
  | setEndpointGroup id group => simp [systemView] at seen
  | setSnifferSysids sysids => simp [systemView] at seen

theorem componentView_expire (op : TableOp) (now maxAge : Nat) :
    componentView op = some (.expire now maxAge) ↔ op = .prune now maxAge := by
  cases op <;> simp [componentView]

theorem systemView_expire (op : TableOp) (now maxAge : Nat) :
    systemView op = some (.expire now maxAge) ↔ op = .prune now maxAge := by
  cases op <;> simp [systemView]

namespace Reference

def empty : Reference := { routes := Board.empty, sysRoutes := Board.empty, policy := .none }

def apply (reference : Reference) (op : TableOp) : Reference where
  routes := reference.routes.apply (componentView op)
  sysRoutes := reference.sysRoutes.apply (systemView op)
  policy := reference.policy.apply op

def run (ops : List TableOp) : Reference := ops.foldl apply empty

def Sniffer (reference : Reference) (endpointId : EndpointId) : Prop :=
  ∃ sysid ∈ reference.policy.sniffers, endpointId ∈ observersOf (reference.sysRoutes sysid)

def Reaches (reference : Reference) (observers : Finset EndpointId) (endpointId : EndpointId) : Prop :=
  endpointId ∈ observers ∨
    ∃ group, reference.policy.groupOf endpointId = some group ∧ ∃ ep ∈ observers, ep ∈ reference.policy.members group

def deciding (reference : Reference) (sysid compid : UInt8) (entry : Sighting EndpointId) : Sighting EndpointId :=
  if compid = 0 then entry else (reference.routes (sysid, compid)).getD entry

def ShouldSend (reference : Reference) (endpointId : EndpointId) (sysid compid : UInt8) : Prop :=
  reference.Sniffer endpointId ∨ sysid = 0 ∨
    ∃ entry, reference.sysRoutes sysid = some entry ∧
      reference.Reaches (reference.deciding sysid compid entry).observers endpointId

def Fresh (current : Option (Sighting EndpointId)) (endpointId : EndpointId) (now : Instant) : Prop :=
  ∃ sighting, current = some sighting ∧ endpointId ∈ sighting.observers ∧
    now < sighting.lastSeen + Duration.fromSecs 1

def NeedsUpdate (reference : Reference) (endpointId : EndpointId) (sysid compid : UInt8) (now : Instant) : Prop :=
  ¬(Fresh (reference.routes (sysid, compid)) endpointId now ∧ Fresh (reference.sysRoutes sysid) endpointId now)

def totalSystems (reference : Reference) : Nat :=
  (Finset.univ.filter fun sysid => (reference.sysRoutes sysid).isSome).card

def totalRoutes (reference : Reference) : Nat :=
  (Finset.univ.filter fun key : UInt8 × UInt8 => (reference.routes key).isSome).card

def endpoints (reference : Reference) : Finset EndpointId :=
  (Finset.univ.biUnion fun key => observersOf (reference.routes key)) ∪
    Finset.univ.biUnion fun sysid => observersOf (reference.sysRoutes sysid)

theorem run_routes (ops : List TableOp) : (run ops).routes = Sightings.run componentView ops :=
  (Runs.run_simulates apply (fun board op => Board.apply board (componentView op)) Reference.routes (fun _ => True)
    (fun _ _ _ => trivial) (fun _ _ _ => rfl) ops empty trivial).2

theorem run_sysRoutes (ops : List TableOp) : (run ops).sysRoutes = Sightings.run systemView ops :=
  (Runs.run_simulates apply (fun board op => Board.apply board (systemView op)) Reference.sysRoutes (fun _ => True)
    (fun _ _ _ => trivial) (fun _ _ _ => rfl) ops empty trivial).2

end Reference

end MavRouter.Routing
