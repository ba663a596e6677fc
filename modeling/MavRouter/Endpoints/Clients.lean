import Mathlib.Data.List.Nodup
import MavRouter.Endpoints.Connections
import MavRouter.Shared.Runs

set_option autoImplicit false

namespace MavRouter.Endpoints

open Ingress Runs

def firstTcpClientId : Nat := 10000

structure ServerClient where
  server : Nat
  core : EndpointCore
  finished : Bool

def ServerClient.origin (client : ServerClient) : Nat × EndpointCore := (client.server, client.core)

def ServerClient.finish (client : ServerClient) : ServerClient := { client with finished := true }

structure TcpServers where
  cores : List EndpointCore
  clients : List ServerClient
  stopped : List Nat
  nextTcpClientId : Nat

inductive ServerEvent where
  | accepted (server : Nat)
  | acceptFailed (server : Nat)
  | finished (client : Nat)
  | joined (client : Nat)
  | cancelled (server : Nat)

namespace TcpServers

def start (cores : List EndpointCore) : TcpServers where
  cores := cores
  clients := []
  stopped := []
  nextTcpClientId := firstTcpClientId

def joinSet (s : TcpServers) (server : Nat) : List ServerClient :=
  s.clients.filter fun client => client.server = server

def admits (s : TcpServers) : ServerEvent → Option ServerClient
  | .accepted server =>
    match s.cores[server]? with
    | none => none
    | some core =>
      if server ∈ s.stopped then none
      else if maxTcpClients ≤ (s.joinSet server).length then none
      else some ⟨server, childForClient core s.nextTcpClientId s.nextTcpClientId, false⟩
  | _ => none

def step (s : TcpServers) (event : ServerEvent) : TcpServers :=
  match event with
  | .accepted _ =>
    match s.admits event with
    | none => s
    | some client =>
      { s with
        clients := s.clients ++ [client]
        nextTcpClientId := (s.nextTcpClientId + 1) % (usizeMax + 1) }
  | .acceptFailed _ => s
  | .finished client => { s with clients := s.clients.modify client ServerClient.finish }
  | .joined client =>
    match s.clients[client]? with
    | none => s
    | some task => if task.finished then { s with clients := s.clients.eraseIdx client } else s
  -- The loop breaks, and join_set.shutdown aborts what is left.
  | .cancelled server =>
    { s with
      clients := s.clients.filter fun client => client.server ≠ server
      stopped := server :: s.stopped }

def run (cores : List EndpointCore) (events : List ServerEvent) : TcpServers := events.foldl step (start cores)

def admitted (cores : List EndpointCore) (events : List ServerEvent) : List ServerClient :=
  (trace admits step (start cores) events).filterMap id

theorem admitted_concat (cores : List EndpointCore) (events : List ServerEvent) (event : ServerEvent) :
    admitted cores (events ++ [event]) =
      admitted cores events ++ ((run cores events).admits event).toList := by
  rw [admitted, admitted, trace_append, List.filterMap_append, trace, trace, run]
  cases admits _ event <;> rfl

end TcpServers

theorem map_modify_same {A B : Type} (view : A → B) (change : A → A) (l : List A) (i : Nat)
    (same : ∀ x, view (change x) = view x) : (l.modify i change).map view = l.map view := by
  apply List.ext_getElem?
  intro j
  simp only [List.getElem?_map, List.getElem?_modify]
  cases l[j]? with
  | none => rfl
  | some x =>
    simp only [Option.map_some]
    split_ifs <;> simp [same]

theorem joinSet_length (s : TcpServers) (server : Nat) :
    (s.joinSet server).length = (s.clients.map ServerClient.server).count server := by
  simp only [TcpServers.joinSet, List.count, ← List.countP_eq_length_filter, List.countP_map, Function.comp_def,
    beq_eq_decide]

def ServerClient.ChildOf (cores : List EndpointCore) (client : ServerClient) : Prop :=
  ∃ core, cores[client.server]? = some core ∧ client.core = childForClient core client.core.id.id client.core.id.id

structure Served (cores : List EndpointCore) (taken : List ServerClient) (s : TcpServers) : Prop where
  same : s.cores = cores
  next : s.nextTcpClientId = (firstTcpClientId + taken.length) % (usizeMax + 1)
  ids : (taken.map fun client => client.core.id) =
    (List.range taken.length).map fun k => ⟨(firstTcpClientId + k) % (usizeMax + 1)⟩
  children : ∀ client ∈ taken, client.ChildOf cores
  live : (s.clients.map ServerClient.origin).Sublist (taken.map ServerClient.origin)
  limit : ∀ server, (s.joinSet server).length ≤ maxTcpClients
  stopped : ∀ server ∈ s.stopped, s.joinSet server = []

namespace Served

variable {cores : List EndpointCore} {taken : List ServerClient} {s : TcpServers}

theorem start (cores : List EndpointCore) : Served cores [] (.start cores) := by
  constructor <;> simp [TcpServers.start, TcpServers.joinSet, firstTcpClientId, usizeMax]

theorem shrink (served : Served cores taken s) (later : TcpServers) (same : later.cores = s.cores)
    (next : later.nextTcpClientId = s.nextTcpClientId)
    (live : (later.clients.map ServerClient.origin).Sublist (s.clients.map ServerClient.origin))
    (sets : ∀ server, (later.joinSet server).length ≤ (s.joinSet server).length)
    (stopped : ∀ server ∈ later.stopped, server ∈ s.stopped ∨ later.joinSet server = []) :
    Served cores taken later where
  same := same.trans served.same
  next := next.trans served.next
  ids := served.ids
  children := served.children
  live := live.trans served.live
  limit server := Nat.le_trans (sets server) (served.limit server)
  stopped server member := by
    rcases stopped server member with before | empty
    · have smaller := sets server
      rw [served.stopped server before, List.length_nil] at smaller
      exact List.length_eq_zero_iff.mp (Nat.le_zero.mp smaller)
    · exact empty

theorem accepted (served : Served cores taken s) (server : Nat) :
    Served cores (taken ++ (s.admits (.accepted server)).toList) (s.step (.accepted server)) := by
  cases admits : s.admits (.accepted server) with
  | none => simpa [TcpServers.step, admits] using served
  | some client =>
    have turn := admits
    simp only [TcpServers.admits] at turn
    cases found : s.cores[server]? with
    | none => simp [found] at turn
    | some core =>
      simp only [found] at turn
      split_ifs at turn with gone full
      cases turn
      have joined (other : Nat) : (s.step (.accepted server)).joinSet other =
          s.joinSet other ++ if server = other then
            [⟨server, childForClient core s.nextTcpClientId s.nextTcpClientId, false⟩] else [] := by
        simp only [TcpServers.step, admits, TcpServers.joinSet, List.filter_append]
        by_cases here : server = other <;> simp [here]
      simp only [Option.toList_some]
      constructor
      · simpa [TcpServers.step, admits] using served.same
      · simp only [TcpServers.step, admits, served.next, List.length_append, List.length_singleton]
        rw [Nat.mod_add_mod, Nat.add_assoc]
      · rw [List.map_append, served.ids, List.length_append, List.length_singleton, List.range_succ, List.map_append]
        simp [childForClient, served.next]
      · intro child member
        rcases List.mem_append.mp member with old | new
        · exact served.children child old
        · rw [List.mem_singleton.mp new]
          exact ⟨core, served.same ▸ found, rfl⟩
      · simp only [TcpServers.step, admits, List.map_append, List.map_singleton]
        exact served.live.append (List.Sublist.refl _)
      · intro other
        rw [joined, List.length_append]
        split_ifs with here
        · subst here
          simp only [List.length_singleton]
          omega
        · simpa using served.limit other
      · intro other member
        have before : other ∈ s.stopped := by simpa [TcpServers.step, admits] using member
        rw [joined, served.stopped other before, if_neg fun here : server = other => gone (here ▸ before),
          List.append_nil]

theorem step (served : Served cores taken s) (event : ServerEvent) :
    Served cores (taken ++ (s.admits event).toList) (s.step event) := by
  cases event with
  | accepted server => exact served.accepted server
  | acceptFailed server => simpa [TcpServers.admits, TcpServers.step] using served
  | finished client =>
    simp only [TcpServers.admits, Option.toList_none, List.append_nil]
    apply served.shrink
    · rfl
    · rfl
    · have same := map_modify_same ServerClient.origin ServerClient.finish s.clients client fun _ => rfl
      rw [← same]
      exact List.Sublist.refl _
    · intro server
      have same := map_modify_same ServerClient.server ServerClient.finish s.clients client fun _ => rfl
      rw [joinSet_length, joinSet_length, ← same]
      exact Nat.le_refl _
    · exact fun server member => .inl member
  | joined client =>
    simp only [TcpServers.admits, Option.toList_none, List.append_nil, TcpServers.step]
    cases found : s.clients[client]? with
    | none => exact served
    | some task =>
      dsimp only
      split_ifs
      · apply served.shrink
        · rfl
        · rfl
        · exact (List.eraseIdx_sublist ..).map _
        · exact fun server => ((List.eraseIdx_sublist ..).filter _).length_le
        · exact fun server member => .inl member
      · exact served
  | cancelled server =>
    simp only [TcpServers.admits, Option.toList_none, List.append_nil]
    apply served.shrink
    · rfl
    · rfl
    · exact List.filter_sublist.map _
    · exact fun other => (List.filter_sublist.filter _).length_le
    · intro other member
      rcases List.mem_cons.mp member with rfl | before
      · refine .inr ?_
        simp [TcpServers.step, TcpServers.joinSet, List.filter_filter]
      · exact .inl before

end Served

theorem run_served (cores : List EndpointCore) (events : List ServerEvent) :
    Served cores (TcpServers.admitted cores events) (TcpServers.run cores events) := by
  apply run_history TcpServers.step (.start cores)
    (fun events s => Served cores (TcpServers.admitted cores events) s)
  · exact Served.start cores
  · intro events event served
    rw [TcpServers.admitted_concat]
    exact served.step event

theorem ids_nodup (count : Nat) (fits : count ≤ usizeMax + 1) :
    ((List.range count).map fun k => EndpointId.mk ((firstTcpClientId + k) % (usizeMax + 1))).Nodup := by
  refine List.Nodup.map_on ?_ List.nodup_range
  intro j inside k inside' same
  rw [List.mem_range] at inside inside'
  simp only [EndpointId.mk.injEq, firstTcpClientId, usizeMax] at same fits
  omega

theorem clients_apart (cores : List EndpointCore) (events : List ServerEvent)
    (fewer : (TcpServers.admitted cores events).length ≤ usizeMax + 1 - firstTcpClientId) :
    let s := TcpServers.run cores events
    ((TcpServers.admitted cores events).map fun client => client.core.id).Nodup ∧
      (∀ client ∈ TcpServers.admitted cores events, firstTcpClientId ≤ client.core.id.id ∧
        ∃ core, cores[client.server]? = some core ∧
          client.core = childForClient core client.core.id.id client.core.id.id) ∧
      (s.clients.map ServerClient.origin).Sublist ((TcpServers.admitted cores events).map ServerClient.origin) ∧
      (∀ server, (s.joinSet server).length ≤ maxTcpClients) ∧ ∀ server ∈ s.stopped, s.joinSet server = [] := by
  intro s
  have served : Served cores _ s := run_served cores events
  refine ⟨?_, ?_, served.live, served.limit, served.stopped⟩
  · rw [served.ids]
    exact ids_nodup _ (Nat.le_trans fewer (Nat.sub_le _ _))
  · intro client member
    refine ⟨?_, served.children client member⟩
    have dealt := List.mem_map_of_mem (f := fun client : ServerClient => client.core.id) member
    rw [served.ids] at dealt
    obtain ⟨k, within, same⟩ := List.mem_map.mp dealt
    rw [List.mem_range] at within
    rw [← same]
    simp only [firstTcpClientId, usizeMax] at fewer ⊢
    omega

def turnover : List ServerEvent :=
  [.accepted 0, .accepted 1, .finished 0, .joined 0, .accepted 0, .acceptFailed 1, .cancelled 1, .accepted 1]

def turnoverCores : List EndpointCore :=
  [⟨⟨0⟩, {}, true, 0⟩, ⟨⟨1⟩, { allowMsgIdIn := (∅ : Maps.HashSet UInt32).insert 0 () }, true, 1⟩]

theorem clients_apart_turnover :
    ((TcpServers.admitted turnoverCores turnover).map fun client => (client.server, client.core.id.id)) =
        [(0, 10000), (1, 10001), (0, 10002)] ∧
      (∀ client ∈ TcpServers.admitted turnoverCores turnover, firstTcpClientId ≤ client.core.id.id ∧
        ∃ core, turnoverCores[client.server]? = some core ∧
          client.core = childForClient core client.core.id.id client.core.id.id) ∧
      1 ∈ (TcpServers.run turnoverCores turnover).stopped ∧
      (TcpServers.run turnoverCores turnover).joinSet 1 = [] := by
  have stopped : 1 ∈ (TcpServers.run turnoverCores turnover).stopped := by decide
  obtain ⟨_, children, _, _, empty⟩ := clients_apart turnoverCores turnover (by decide +kernel)
  exact ⟨by decide +kernel, children, stopped, empty 1 stopped⟩

end MavRouter.Endpoints
