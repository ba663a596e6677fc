import MavRouter.Ingress.Learning

set_option autoImplicit false

namespace MavRouter.Orchestration

open Ingress Routing

-- An update with the reading of the clock its own call of the table would make.
abbrev Timed := RouteUpdate × Instant

def applyUpdate (table : RoutingTable) (timed : Timed) : RoutingTable :=
  table.update timed.1.endpointId timed.1.sysId timed.1.compId timed.1.now timed.2

def applyBatch (table : RoutingTable) (batch : List Timed) : RoutingTable := batch.foldl applyUpdate table

def applyBatches (table : RoutingTable) (batches : List (List Timed)) : RoutingTable := batches.foldl applyBatch table

def updatesOf (batches : List (List Timed)) : List RouteUpdate := batches.flatten.map Prod.fst

def opsOf (batches : List (List Timed)) : List TableOp := batches.flatten.map fun timed => timed.1.op timed.2

theorem applyBatches_run (table : RoutingTable) (batches : List (List Timed)) :
    applyBatches table batches = table.run (opsOf batches) := by
  have joined : applyBatches table batches = batches.flatten.foldl applyUpdate table := (List.foldl_flatten ..).symm
  rw [joined, RoutingTable.run, opsOf, List.foldl_map]
  rfl

theorem opsOf_learn (batches : List (List Timed)) : ∀ op ∈ opsOf batches, op.learns = true := by
  intro op member
  obtain ⟨timed, _, rfl⟩ := List.mem_map.mp member
  rfl

theorem reported_iff (batches : List (List Timed)) (endpointId : EndpointId) (sysid compid : UInt8) :
    Reported (opsOf batches) endpointId sysid compid ↔
      ∃ u ∈ updatesOf batches, u.endpointId = endpointId ∧ u.sysId = sysid ∧ u.compId = compid := by
  constructor
  · rintro ⟨now, clock, member⟩
    obtain ⟨timed, inside, same⟩ := List.mem_map.mp member
    simp only [RouteUpdate.op, TableOp.update.injEq] at same
    exact ⟨timed.1, List.mem_map_of_mem inside, same.1, same.2.1, same.2.2.1⟩
  · rintro ⟨u, member, rfl, rfl, rfl⟩
    obtain ⟨timed, inside, rfl⟩ := List.mem_map.mp member
    exact ⟨timed.1.now, timed.2, List.mem_map.mpr ⟨timed, inside, rfl⟩⟩

theorem arrival_order (ops : List TableOp) (updates : List RouteUpdate) (first second : List (List Timed))
    (one : (updatesOf first).Perm updates) (other : (updatesOf second).Perm updates) :
    let table := RoutingTable.new.run ops
    SameRoutes (applyBatches table first) (applyBatches table second) ∧
      (∀ endpointId sysid compid, (applyBatches table first).shouldSend endpointId sysid compid =
        (applyBatches table second).shouldSend endpointId sysid compid) ∧
      ∀ timestamp, (applyBatches table first).stats timestamp = (applyBatches table second).stats timestamp := by
  intro table
  have wellFormed := (run_refines ops).1
  have reported (endpointId : EndpointId) (sysid compid : UInt8) :
      Reported (opsOf first) endpointId sysid compid ↔ Reported (opsOf second) endpointId sysid compid := by
    simp only [reported_iff, one.mem_iff, other.mem_iff]
  have same : SameRoutes (applyBatches table first) (applyBatches table second) := by
    rw [applyBatches_run, applyBatches_run]
    apply sameRoutes_of_reports table wellFormed _ _ (opsOf_learn first) (opsOf_learn second)
    · intro endpointId sysid compid
      exact (reported endpointId sysid compid).mp
    · intro endpointId sysid compid later
      exact run_lists table wellFormed _ (opsOf_learn first) _ _ _ (.inr ((reported ..).mpr later))
  have config : (applyBatches table first).config = (applyBatches table second).config := by
    rw [applyBatches_run, applyBatches_run, run_config _ (opsOf_learn first), run_config _ (opsOf_learn second)]
  have kept (batches : List (List Timed)) : WellFormed (applyBatches table batches) := by
    rw [applyBatches_run]
    exact table_run_wellFormed table wellFormed (opsOf batches)
  exact ⟨same, same.answers (kept first) (kept second) config⟩

theorem arrival_order_swapped :
    let link : RouteUpdate := ⟨⟨0⟩, 1, 1, 5⟩
    let spare : RouteUpdate := ⟨⟨1⟩, 1, 1, 7⟩
    SameRoutes (applyBatches (RoutingTable.new.run []) [[(link, 5), (spare, 7)]])
      (applyBatches (RoutingTable.new.run []) [[(spare, 8)], [(link, 9)]]) := by
  intro link spare
  exact (arrival_order [] [link, spare] [[(link, 5), (spare, 7)]] [[(spare, 8)], [(link, 9)]]
    (List.Perm.refl _) (List.Perm.swap link spare [])).1

end MavRouter.Orchestration
