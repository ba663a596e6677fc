import MavRouter.Ingress.Core
import MavRouter.Routing.Listing

set_option autoImplicit false

namespace MavRouter.Ingress

open Framing Routing Sightings

/-- Observations between the gate and the queue, the queue, and the batch of the updater task. -/
structure Learning where
  routingTable : RoutingTable
  sending : List RouteUpdate
  routeUpdates : RouteQueue
  batch : List RouteUpdate
  applying : Bool
  dropped : List RouteUpdate

inductive LearningStep where
  | gate (core : EndpointCore) (header : MavHeader) (now : Instant)
  | trySend (i : Nat)
  | recv
  | update (clock : Instant)

namespace Learning

def start (routingTable : RoutingTable) (capacity : Nat) : Learning :=
  { routingTable, sending := [], routeUpdates := { pending := [], capacity, closed := false }, batch := []
    applying := false, dropped := [] }

def gate (learning : Learning) (core : EndpointCore) (header : MavHeader) (now : Instant) : Learning :=
  if !core.updateRouting then learning
  else if !learning.routingTable.needsUpdateForEndpoint core.id header.systemId header.componentId now then learning
  else { learning with sending := learning.sending ++ [⟨core.id, header.systemId, header.componentId, now⟩] }

-- Any of the calls that passed the gate may be the next to reach the channel.
def trySend (learning : Learning) (i : Nat) : Learning :=
  match learning.sending[i]? with
  | none => learning
  | some update =>
    let rest := { learning with sending := learning.sending.eraseIdx i }
    match learning.routeUpdates.trySend update with
    | .ok queue => { rest with routeUpdates := queue }
    | .error _ => { rest with dropped := learning.dropped ++ [update] }

def recv (learning : Learning) : Learning :=
  if learning.applying || decide (routeUpdateBatchSize ≤ learning.batch.length) then learning
  else
    match learning.routeUpdates.pending with
    | [] => learning
    | first :: rest =>
      { learning with
        routeUpdates := { learning.routeUpdates with pending := rest }
        batch := learning.batch ++ [first] }

-- The batch is applied to its end before anything more is received.
def update (learning : Learning) (clock : Instant) : Learning :=
  match learning.batch with
  | [] => learning
  | u :: rest =>
    { learning with
      routingTable := learning.routingTable.update u.endpointId u.sysId u.compId u.now clock
      batch := rest
      applying := !rest.isEmpty }

def step (learning : Learning) : LearningStep → Learning
  | .gate core header now => learning.gate core header now
  | .trySend i => learning.trySend i
  | .recv => learning.recv
  | .update clock => learning.update clock

def run (learning : Learning) (steps : List LearningStep) : Learning := steps.foldl step learning

def inFlight (learning : Learning) : List RouteUpdate :=
  learning.sending ++ learning.routeUpdates.pending ++ learning.batch

def Drained (learning : Learning) : Prop := learning.inFlight = []

instance (learning : Learning) : Decidable learning.Drained := inferInstanceAs (Decidable (_ = []))

theorem gate_trySend (core : EndpointCore) (header : MavHeader) (now : Instant) (router : RouterState)
    (learning : Learning) (table : learning.routingTable = router.routingTable)
    (queue : learning.routeUpdates = router.routeUpdates) (alone : learning.sending = []) :
    let router' := core.observeRoute header now router
    let learning' := (learning.gate core header now).trySend 0
    learning'.routingTable = router'.routingTable ∧ learning'.routeUpdates = router'.routeUpdates ∧
      learning'.sending = [] := by
  simp only [gate, EndpointCore.observeRoute, table]
  split_ifs with off idle
  · simp [trySend, alone, table, queue]
  · simp [trySend, alone, table, queue]
  · simp only [trySend, alone, queue, List.nil_append, List.getElem?_cons_zero, List.eraseIdx_cons_zero]
    cases router.routeUpdates.trySend _ with
    | ok sent => simp
    | error reason => simp

end Learning

def LearningStep.observed : LearningStep → Option RouteUpdate
  | .gate core header now =>
    if core.updateRouting then some ⟨core.id, header.systemId, header.componentId, now⟩ else none
  | _ => none

def observations (steps : List LearningStep) : List RouteUpdate := steps.filterMap LearningStep.observed

def RouteUpdate.op (u : RouteUpdate) (clock : Instant) : TableOp :=
  .update u.endpointId u.sysId u.compId u.now clock

def RouteUpdate.SameRoute (u v : RouteUpdate) : Prop :=
  u.endpointId = v.endpointId ∧ u.sysId = v.sysId ∧ u.compId = v.compId

def RouteUpdate.ListedIn (u : RouteUpdate) (table : RoutingTable) : Prop :=
  Lists table u.endpointId u.sysId u.compId

theorem gate_closed (table : RoutingTable) (endpointId : EndpointId) (sysid compid : UInt8) (now : Instant)
    (closed : table.needsUpdateForEndpoint endpointId sysid compid now = false) :
    Lists table endpointId sysid compid := by
  have fresh : ¬(abs table).NeedsUpdate endpointId sysid compid now := by
    rw [← needsUpdate_iff, closed]
    exact Bool.false_ne_true
  obtain ⟨⟨component, found, listed, _⟩, ⟨system, found', listed', _⟩⟩ := not_not.mp fresh
  exact ⟨(mem_observersOf _ _).mpr ⟨component, found, listed⟩, (mem_observersOf _ _).mpr ⟨system, found', listed'⟩⟩

/-- The table is behind the observations by what is in flight, and by nothing else. -/
structure Behind (begin : RoutingTable) (seen : List RouteUpdate) (learning : Learning) : Prop where
  applied : ∃ updates : List TableOp, learning.routingTable = begin.run updates ∧
    ∀ op ∈ updates, ∃ u ∈ seen, ∃ clock, op = u.op clock
  genuine : ∀ u ∈ learning.inFlight, u ∈ seen
  covered : ∀ u ∈ seen,
    u.ListedIn learning.routingTable ∨ ∃ v ∈ learning.inFlight ++ learning.dropped, v.SameRoute u

theorem ops_learn (seen : List RouteUpdate) (updates : List TableOp)
    (applied : ∀ op ∈ updates, ∃ u ∈ seen, ∃ clock, op = u.op clock) : ∀ op ∈ updates, op.learns = true := by
  intro op member
  obtain ⟨u, _, clock, rfl⟩ := applied op member
  rfl

variable {begin : RoutingTable} {seen : List RouteUpdate} {learning : Learning}

theorem start_behind (begin : RoutingTable) (capacity : Nat) : Behind begin [] (Learning.start begin capacity) where
  applied := ⟨[], rfl, by simp⟩
  genuine := by simp [Learning.start, Learning.inFlight]
  covered := by simp

theorem Behind.moved (behind : Behind begin seen learning) (next : Learning)
    (table : next.routingTable = learning.routingTable) (old : ∀ u ∈ next.inFlight, u ∈ learning.inFlight)
    (kept : ∀ u ∈ learning.inFlight ++ learning.dropped, u ∈ next.inFlight ++ next.dropped) :
    Behind begin seen next where
  applied := by
    rw [table]
    exact behind.applied
  genuine u member := behind.genuine u (old u member)
  covered u member := by
    rw [table]
    exact (behind.covered u member).imp_right fun ⟨v, flying, same⟩ => ⟨v, kept v flying, same⟩

theorem Behind.observed (behind : Behind begin seen learning) (u : RouteUpdate) (next : Learning)
    (table : next.routingTable = learning.routingTable)
    (old : ∀ v ∈ next.inFlight, v ∈ learning.inFlight ∨ v = u)
    (kept : ∀ v ∈ learning.inFlight ++ learning.dropped, v ∈ next.inFlight ++ next.dropped)
    (own : u.ListedIn learning.routingTable ∨ u ∈ next.inFlight) : Behind begin (seen ++ [u]) next where
  applied := by
    obtain ⟨updates, run, applied⟩ := behind.applied
    refine ⟨updates, table.trans run, ?_⟩
    intro op member
    obtain ⟨v, past, rest⟩ := applied op member
    exact ⟨v, List.mem_append_left _ past, rest⟩
  genuine v member := by
    rw [List.mem_append, List.mem_singleton]
    exact (old v member).imp_left (behind.genuine v)
  covered v member := by
    rw [table]
    cases List.mem_append.mp member with
    | inl past => exact (behind.covered v past).imp_right fun ⟨w, flying, same⟩ => ⟨w, kept w flying, same⟩
    | inr last =>
      rw [List.mem_singleton.mp last]
      exact own.imp_right fun flying => ⟨u, List.mem_append_left _ flying, rfl, rfl, rfl⟩

theorem Behind.gate (behind : Behind begin seen learning) (core : EndpointCore) (header : MavHeader) (now : Instant) :
    Behind begin (seen ++ (LearningStep.gate core header now).observed.toList) (learning.gate core header now) := by
  rw [Learning.gate]
  split_ifs with off closed
  · simpa [LearningStep.observed, Bool.eq_false_iff.mpr (by simpa using off)] using behind
  · -- The table as it is now has what the observation would tell it.
    have on : core.updateRouting = true := by simpa using off
    have listed := gate_closed learning.routingTable core.id header.systemId header.componentId now
      (by simpa using closed)
    simp only [LearningStep.observed, if_pos on, Option.toList_some]
    exact behind.observed _ learning rfl (fun v flying => .inl flying) (fun v flying => flying) (.inl listed)
  · have on : core.updateRouting = true := by simpa using off
    simp only [LearningStep.observed, if_pos on, Option.toList_some]
    refine behind.observed _ _ rfl ?_ ?_ (.inr ?_)
    · intro v
      simp only [Learning.inFlight, List.mem_append, List.mem_singleton]
      tauto
    · intro v
      simp only [Learning.inFlight, List.mem_append]
      tauto
    · simp [Learning.inFlight]

theorem Behind.trySend (behind : Behind begin seen learning) (i : Nat) : Behind begin seen (learning.trySend i) := by
  rw [Learning.trySend]
  cases sent : learning.sending[i]? with
  | none => exact behind
  | some u =>
    obtain ⟨inside, rfl⟩ := List.getElem?_eq_some_iff.mp sent
    have split (v : RouteUpdate) : v ∈ learning.sending ↔
      v = learning.sending[i] ∨ v ∈ learning.sending.eraseIdx i := by
      rw [← List.mem_cons]
      exact (List.getElem_cons_eraseIdx_perm inside).mem_iff.symm
    simp only [RouteQueue.trySend]
    split_ifs with closed full
    all_goals
      refine behind.moved _ ?_ ?_ ?_
      · rfl
      all_goals
        intro v
        simp only [Learning.inFlight, List.mem_append, split, List.mem_singleton]
        tauto

theorem Behind.recv (behind : Behind begin seen learning) : Behind begin seen learning.recv := by
  rw [Learning.recv]
  split_ifs with busy
  · exact behind
  · cases pending : learning.routeUpdates.pending with
    | nil => exact behind
    | cons first rest =>
      refine behind.moved _ ?_ ?_ ?_
      · rfl
      all_goals
        intro v
        simp only [Learning.inFlight, pending, List.mem_append, List.mem_cons]
        tauto

theorem Behind.update (behind : Behind begin seen learning) (wellFormed : WellFormed begin) (clock : Instant) :
    Behind begin seen (learning.update clock) := by
  rw [Learning.update]
  cases batch : learning.batch with
  | nil => exact behind
  | cons u rest =>
    obtain ⟨updates, table, applied⟩ := behind.applied
    have own : u ∈ seen := behind.genuine u (by simp [Learning.inFlight, batch])
    have grown : learning.routingTable.update u.endpointId u.sysId u.compId u.now clock =
        learning.routingTable.run [u.op clock] := rfl
    have lists (v : RouteUpdate) (listed : v.ListedIn learning.routingTable ∨ u.SameRoute v) :
        v.ListedIn (learning.routingTable.update u.endpointId u.sysId u.compId u.now clock) := by
      rw [grown]
      apply run_lists
      · rw [table]
        exact table_run_wellFormed begin wellFormed updates
      · simp [RouteUpdate.op, TableOp.learns]
      · refine listed.imp_right fun same => ⟨u.now, clock, ?_⟩
        obtain ⟨endpointId, sysId, compId⟩ := same
        rw [← endpointId, ← sysId, ← compId]
        exact List.mem_singleton.mpr rfl
    constructor
    · refine ⟨updates ++ [u.op clock], ?_, ?_⟩
      · rw [run_append, ← table]
        rfl
      · intro op member
        cases List.mem_append.mp member with
        | inl old => exact applied op old
        | inr last => exact ⟨u, own, clock, List.mem_singleton.mp last⟩
    · intro v member
      apply behind.genuine v
      simp only [Learning.inFlight, batch, List.mem_append, List.mem_cons] at member ⊢
      tauto
    · intro v member
      cases behind.covered v member with
      | inl listed => exact .inl (lists v (.inl listed))
      | inr flying =>
        obtain ⟨w, flying, same⟩ := flying
        by_cases first : w = u
        · exact .inl (lists v (.inr (first ▸ same)))
        · refine .inr ⟨w, ?_, same⟩
          simp only [Learning.inFlight, batch, List.mem_append, List.mem_cons] at flying ⊢
          tauto

theorem Behind.step (behind : Behind begin seen learning) (wellFormed : WellFormed begin) (step : LearningStep) :
    Behind begin (seen ++ step.observed.toList) (learning.step step) := by
  cases step with
  | gate core header now => exact behind.gate core header now
  | trySend i => simpa [LearningStep.observed, Learning.step] using behind.trySend i
  | recv => simpa [LearningStep.observed, Learning.step] using behind.recv
  | update clock => simpa [LearningStep.observed, Learning.step] using behind.update wellFormed clock

theorem run_behind (begin : RoutingTable) (wellFormed : WellFormed begin) (capacity : Nat) (steps : List LearningStep) :
    Behind begin (observations steps) ((Learning.start begin capacity).run steps) := by
  apply Runs.run_history Learning.step (Learning.start begin capacity)
    (fun steps learning => Behind begin (observations steps) learning)
  · exact start_behind begin capacity
  · intro steps step behind
    have grown : observations (steps ++ [step]) = observations steps ++ step.observed.toList := by
      rw [observations, List.filterMap_append]
      cases seen : step.observed <;> simp [observations, seen]
    rw [grown]
    exact behind.step wellFormed step

theorem learning_loses_no_route (before : List TableOp) (capacity : Nat) (steps : List LearningStep)
    (clock : RouteUpdate → Instant) :
    let begin := RoutingTable.new.run before
    let learning := (Learning.start begin capacity).run steps
    let full := begin.run ((observations steps).map fun u => u.op (clock u))
    learning.Drained → learning.dropped = [] →
      SameRoutes learning.routingTable full ∧
      (∀ endpointId sysid compid,
        learning.routingTable.shouldSend endpointId sysid compid = full.shouldSend endpointId sysid compid) ∧
      ∀ timestamp, learning.routingTable.stats timestamp = full.stats timestamp := by
  intro begin learning full drained kept
  have wellFormed : WellFormed begin := (run_refines before).1
  have behind : Behind begin (observations steps) learning := run_behind begin wellFormed capacity steps
  obtain ⟨updates, table, applied⟩ := behind.applied
  have learns := ops_learn _ updates applied
  have learns' : ∀ op ∈ (observations steps).map fun u => u.op (clock u), op.learns = true := by
    apply ops_learn (observations steps)
    intro op member
    obtain ⟨u, observed, rfl⟩ := List.mem_map.mp member
    exact ⟨u, observed, clock u, rfl⟩
  have same : SameRoutes learning.routingTable full := by
    rw [table]
    apply sameRoutes_of_reports begin wellFormed updates _ learns learns'
    · rintro endpointId sysid compid ⟨now, time, member⟩
      obtain ⟨u, observed, time', same⟩ := applied _ member
      obtain ⟨rfl, rfl, rfl, rfl, rfl⟩ := TableOp.update.inj same
      exact ⟨u.now, clock u, List.mem_map.mpr ⟨u, observed, rfl⟩⟩
    · rintro endpointId sysid compid ⟨now, time, member⟩
      obtain ⟨u, observed, same⟩ := List.mem_map.mp member
      obtain ⟨rfl, rfl, rfl, rfl, rfl⟩ := TableOp.update.inj same
      rw [← table]
      refine (behind.covered u observed).resolve_right ?_
      rintro ⟨v, flying, _⟩
      rw [show learning.inFlight = [] from drained, kept] at flying
      cases flying
  refine ⟨same, same.answers ?_ (table_run_wellFormed begin wellFormed _) ?_⟩
  · rw [table]
    exact table_run_wellFormed begin wellFormed updates
  · rw [table, run_config updates learns, run_config _ learns']

-- The second call passes the gate while the first one's update is queued; the third is turned away.
def lateGate : List LearningStep :=
  let core : EndpointCore := { id := ⟨0⟩, filters := {}, updateRouting := true, stats := 0 }
  [.gate core ⟨1, 1, 0⟩ 0, .trySend 0, .gate core ⟨1, 1, 1⟩ 5, .recv, .update 6, .gate core ⟨1, 1, 2⟩ 7, .trySend 0,
    .recv, .update 8]

theorem learning_loses_no_route_late :
    let learning := (Learning.start (RoutingTable.new.run []) 1024).run lateGate
    learning.Drained ∧ learning.dropped = [] ∧ (observations lateGate).length = 3 ∧
      learning.routingTable.shouldSend ⟨0⟩ 1 1 =
        (RoutingTable.new.run ((observations lateGate).map fun u => u.op 0)).shouldSend ⟨0⟩ 1 1 := by
  have drained : ((Learning.start (RoutingTable.new.run []) 1024).run lateGate).Drained := by
    decide
  have kept : ((Learning.start (RoutingTable.new.run []) 1024).run lateGate).dropped = [] := by
    decide
  refine ⟨drained, kept, by decide, ?_⟩
  exact (learning_loses_no_route [] 1024 lateGate (fun _ => 0) drained kept).2.1 ⟨0⟩ 1 1

end MavRouter.Ingress
