import MavRouter.Endpoints.Clients
import MavRouter.Endpoints.Groups
import MavRouter.Network.Routes

set_option autoImplicit false

namespace MavRouter.Network

open Endpoints Framing Ingress Orchestration Routing Runs
open Broadcast (ring)

variable {M : Type} [Message M] {system : System} {channel : Broadcast.Channel RoutedMessage}

def isClient (core : EndpointCore) : Bool := decide (firstTcpClientId ≤ core.id.id)

-- The connections with an id from the counter are the clients that the servers have taken on.
def FromServers (cores : List EndpointCore) (events : List ServerEvent) (steps : List (Step M)) : Prop :=
  ((steps.filterMap connected).filter isClient).Perm ((TcpServers.admitted cores events).map ServerClient.core)

theorem place_unique {A B : Type} (p : A → Bool) (view : A → B) (l : List A) (nodup : ((l.filter p).map view).Nodup)
    (i j : Nat) (x y : A) (found : l[i]? = some x) (found' : l[j]? = some y) (holds : p x = true) (holds' : p y = true)
    (same : view x = view y) : i = j := by
  rw [List.Nodup, List.pairwise_map, List.pairwise_filter, List.pairwise_iff_getElem] at nodup
  obtain ⟨inside, rfl⟩ := List.getElem?_eq_some_iff.mp found
  obtain ⟨inside', rfl⟩ := List.getElem?_eq_some_iff.mp found'
  rcases Nat.lt_trichotomy i j with less | equal | greater
  · exact absurd same (nodup i j inside inside' less holds holds')
  · exact equal
  · exact absurd same.symm (nodup j i inside' inside greater holds' holds)

theorem client_place (ahash : List UInt8 → UInt64) (idle : system.links = []) (cores : List EndpointCore)
    (events : List ServerEvent) (fewer : (TcpServers.admitted cores events).length ≤ usizeMax + 1)
    (steps : List (Step M)) (served : FromServers cores events steps) (i j : Nat) (link other : Link)
    (found : (system.run ahash steps).links[i]? = some link) (found' : (system.run ahash steps).links[j]? = some other)
    (client : firstTcpClientId ≤ link.core.id.id) (same : other.core.id = link.core.id) : i = j := by
  have nodup : (((steps.filterMap connected).filter isClient).map EndpointCore.id).Nodup := by
    rw [(served.map EndpointCore.id).nodup_iff, List.map_map,
      show EndpointCore.id ∘ ServerClient.core = fun client => client.core.id from rfl, (run_served cores events).ids]
    exact ids_nodup _ fewer
  have connections := run_connected ahash idle steps
  have place (k : Nat) (link : Link) (found : (system.run ahash steps).links[k]? = some link) :
      (steps.filterMap connected)[k]? = some link.core := by
    rw [← connections, List.getElem?_map, found]
    rfl
  exact place_unique isClient EndpointCore.id _ nodup i j _ _ (place i link found) (place j other found')
    (decide_eq_true client) (decide_eq_true (same ▸ client)) same.symm

theorem clients_hear_themselves (ahash : List UInt8 → UInt64) (config : Config)
    (apart : config.endpoint.length ≤ firstTcpClientId) (cores : List EndpointCore) (events : List ServerEvent)
    (fewer : (TcpServers.admitted cores events).length ≤ usizeMax + 1) (steps : List (Step M))
    (served : FromServers cores events steps) (i : Nat) (link : Link)
    (found : ((configured channel config).run ahash steps).links[i]? = some link)
    (client : firstTcpClientId ≤ link.core.id.id) (msg : RoutedMessage) (forwarded : msg ∈ link.forwarded)
    (target : msg.target.systemId ≠ 0) :
    ∃ before frame now timestampUs between cancelled after,
      steps = before ++ .incoming i frame now timestampUs :: (between ++ .recvNextBusMsg i cancelled :: after) ∧
        ((configured channel config).run ahash (before ++ .incoming i frame now timestampUs :: between)).Takes i msg ∧
        passesFilter link.core frame = true ∧
        (frame.header.systemId = msg.target.systemId ∨ frame.header.systemId ∈ config.general.snifferSysids) := by
  obtain ⟨older, cancelled, after, rfl, takes, passes⟩ := run_forwarded ahash _ rfl steps i link found msg forwarded
  simp only [checkOutgoing_eq, isBroadcast, target, decide_false, Bool.false_or, Bool.and_eq_true] at passes
  obtain ⟨u, ⟨before, j, frame, now, timestampUs, between, source, rfl, reading, filtered, rfl⟩, towards⟩ :=
    reaches_heard config older link.core.id _ _ target passes.2
  have ungrouped (group : String) : ¬InGroup config group link.core.id := fun inside =>
    Nat.not_lt_of_le (apart.trans client) (inGroup_configured config group link.core.id inside)
  have own : source.core.id = link.core.id ∧
      (frame.header.systemId = msg.target.systemId ∨ frame.header.systemId ∈ config.general.snifferSysids) := by
    rcases towards with ⟨sniffs, same⟩ | ⟨heard, same | ⟨group, _, inside⟩⟩
    · exact ⟨same, .inr sniffs⟩
    · exact ⟨same, .inl heard⟩
    · exact absurd inside (ungrouped group)
  obtain ⟨later, found', same, _⟩ := run_keeps ahash ((configured channel config).run ahash before)
    (.incoming j frame now timestampUs :: (between ++ .recvNextBusMsg i cancelled :: after)) j source
    (link_some reading).1
  rw [← System.run_append] at found'
  rw [List.append_assoc, List.cons_append] at found served
  have here : i = j := client_place ahash rfl cores events fewer _ served i j link later found found' client
    (same ▸ own.1)
  subst here
  rw [found, Option.some.injEq] at found'
  refine ⟨before, frame, now, timestampUs, between, cancelled, after, by simp, takes, ?_, own.2⟩
  rw [found', same]
  exact filtered

def twoClients : List (Step CommonMessage) :=
  [.connect (childForClient (relayCore 0) 10000 10000), .connect (childForClient (relayCore 0) 10001 10001),
    .incoming 0 sampleFrame 0 1, .recvRouteUpdate, .applyRouteUpdate 0, .incoming 1 requestV2.frame 0 2,
    .recvNextBusMsg 0 false, .recvNextBusMsg 0 false]

theorem twoClients_link : ∃ link, ((configured ring {}).run sampleHash twoClients).links[0]? = some link ∧
    link.core.id = ⟨10000⟩ ∧
    (childForClient (relayCore 0) 10001 10001).routed requestV2.frame 2 ∈ link.forwarded := by
  refine ⟨((configured ring {}).run sampleHash twoClients).links[0], rfl, rfl, ?_⟩
  decide +kernel

theorem clients_hear_themselves_request : ∃ before, ∃ frame : MavlinkFrame CommonMessage,
    ∃ now timestampUs between cancelled after,
      twoClients = before ++ .incoming 0 frame now timestampUs :: (between ++ .recvNextBusMsg 0 cancelled :: after) ∧
        ((configured ring {}).run sampleHash (before ++ .incoming 0 frame now timestampUs :: between)).Takes 0
          ((childForClient (relayCore 0) 10001 10001).routed requestV2.frame 2) ∧
        (frame.header.systemId = 1 ∨ frame.header.systemId ∈ ([] : List UInt8)) := by
  obtain ⟨link, found, id, forwarded⟩ := twoClients_link
  have served : FromServers [relayCore 0] [.accepted 0, .accepted 0] twoClients := List.Perm.of_eq rfl
  obtain ⟨before, frame, now, timestampUs, between, cancelled, after, split, takes, _, heard⟩ :=
    clients_hear_themselves sampleHash {} (by decide) _ _ (by decide +kernel) twoClients served 0 link found
      (by rw [id]; decide) _ forwarded (by decide)
  exact ⟨before, frame, now, timestampUs, between, cancelled, after, split, takes, heard⟩

end MavRouter.Network
