import Mathlib.Data.List.Perm.Basic
import MavRouter.Config.Validate

set_option autoImplicit false

namespace MavRouter

def EndpointConfig.portOn (protocol : Protocol) (endpoint : EndpointConfig) : Option UInt16 :=
  match endpoint.address with
  | some (own, address) => if own = protocol then (SocketAddr.parse address).map SocketAddr.port else none
  | none => none

namespace Config

def tcpPorts (config : Config) : List UInt16 :=
  config.general.tcpPort.toList ++ config.endpoint.filterMap (EndpointConfig.portOn .tcp)

def udpPorts (config : Config) : List UInt16 := config.endpoint.filterMap (EndpointConfig.portOn .udp)

structure ConflictFree (config : Config) : Prop where
  addresses : ∀ endpoint ∈ config.endpoint, ∀ protocol address, endpoint.address = some (protocol, address) →
    (SocketAddr.parse address).isSome
  tcpPorts : config.tcpPorts.Nodup
  udpPorts : config.udpPorts.Nodup
  baud : ∀ endpoint ∈ config.endpoint, ∀ rates, endpoint.rates = some rates →
    rates ≠ [] ∧ ∀ rate ∈ rates, 300 ≤ rate ∧ rate ≤ 4000000
  msgIds : ∀ endpoint ∈ config.endpoint, ∀ ids ∈ msgIdSets endpoint.filters, ∀ msgId ∈ ids, msgId ≤ 65535
  busCapacity : 10 ≤ config.general.busCapacity ∧ config.general.busCapacity ≤ 1000000
  pruneInterval : 0 < config.general.routingTablePruneIntervalSecs

def onProtocol (protocol : Protocol) (port : Protocol × UInt16) : Option UInt16 :=
  if port.1 = protocol then some port.2 else none

theorem nodup_protocols (ports : List (Protocol × UInt16)) :
    ports.Nodup ↔ (ports.filterMap (onProtocol .tcp)).Nodup ∧ (ports.filterMap (onProtocol .udp)).Nodup := by
  have member (protocol : Protocol) (port : UInt16) (ports : List (Protocol × UInt16)) :
      port ∈ ports.filterMap (onProtocol protocol) ↔ (protocol, port) ∈ ports := by
    simp only [List.mem_filterMap, onProtocol, Option.ite_none_right_eq_some, Option.some.injEq]
    constructor
    · rintro ⟨_, inside, rfl, rfl⟩
      exact inside
    · intro inside
      exact ⟨(protocol, port), inside, rfl, rfl⟩
  induction ports with
  | nil => simp
  | cons first rest ih =>
    obtain ⟨protocol, port⟩ := first
    simp only [List.nodup_cons, ih]
    cases protocol with
    | tcp =>
      rw [List.filterMap_cons_some (show onProtocol .tcp (.tcp, port) = some port from rfl),
        List.filterMap_cons_none (show onProtocol .udp (.tcp, port) = none from rfl), List.nodup_cons, member,
        and_assoc]
    | udp =>
      rw [List.filterMap_cons_none (show onProtocol .tcp (.udp, port) = none from rfl),
        List.filterMap_cons_some (show onProtocol .udp (.udp, port) = some port from rfl), List.nodup_cons, member,
        and_left_comm]

theorem portOn_eq (protocol : Protocol) (endpoint : EndpointConfig) :
    endpoint.portOn protocol = endpoint.port.bind (onProtocol protocol) := by
  rw [EndpointConfig.portOn, EndpointConfig.port]
  cases endpoint.address with
  | none => rfl
  | some listen =>
    obtain ⟨own, address⟩ := listen
    simp only [Option.bind_some]
    cases SocketAddr.parse address <;> simp [onProtocol]

theorem ports_nodup (config : Config) : config.ports.Nodup ↔ config.tcpPorts.Nodup ∧ config.udpPorts.Nodup := by
  have listeners (protocol : Protocol) :
      (config.endpoint.filterMap EndpointConfig.port).filterMap (onProtocol protocol) =
        config.endpoint.filterMap (EndpointConfig.portOn protocol) := by
    rw [List.filterMap_filterMap]
    congr 1
    funext endpoint
    exact (portOn_eq protocol endpoint).symm
  rw [nodup_protocols, Config.ports, List.filterMap_append, List.filterMap_append, listeners, listeners]
  cases own : config.general.tcpPort <;> simp [tcpPorts, udpPorts, onProtocol, own]

theorem validate_conflictFree (config : Config) : config.validate = .ok () ↔ config.ConflictFree := by
  have positive : 0 < config.general.routingTablePruneIntervalSecs ↔
      config.general.routingTablePruneIntervalSecs ≠ 0 := UInt64.pos_iff_ne_zero
  rw [validate_ok]
  constructor
  · intro valid
    obtain ⟨tcp, udp⟩ := (ports_nodup config).mp valid.ports
    refine ⟨?_, tcp, udp, ?_, ?_, valid.busCapacity, positive.mpr valid.pruneInterval⟩
    · intro endpoint member protocol address listens
      exact (valid.endpoints endpoint member).address (protocol, address) listens
    · exact fun endpoint member => (valid.endpoints endpoint member).baud
    · exact fun endpoint member => (valid.endpoints endpoint member).msgIds
  · intro free
    refine ⟨?_, (ports_nodup config).mpr ⟨free.tcpPorts, free.udpPorts⟩, free.busCapacity,
      positive.mp free.pruneInterval⟩
    intro endpoint member
    refine ⟨?_, free.baud endpoint member, free.msgIds endpoint member⟩
    rintro ⟨protocol, address⟩ listens
    exact free.addresses endpoint member protocol address listens

theorem ConflictFree.remove {config : Config} (free : config.ConflictFree) (remaining : List EndpointConfig)
    (removed : remaining.Sublist config.endpoint) : ConflictFree { config with endpoint := remaining } where
  addresses endpoint member := free.addresses endpoint (removed.subset member)
  tcpPorts := free.tcpPorts.sublist ((List.Sublist.refl _).append (removed.filterMap _))
  udpPorts := free.udpPorts.sublist (removed.filterMap _)
  baud endpoint member := free.baud endpoint (removed.subset member)
  msgIds endpoint member := free.msgIds endpoint (removed.subset member)
  busCapacity := free.busCapacity
  pruneInterval := free.pruneInterval

theorem ConflictFree.reorder {config : Config} (free : config.ConflictFree) (reordered : List EndpointConfig)
    (same : reordered.Perm config.endpoint) : ConflictFree { config with endpoint := reordered } where
  addresses endpoint member := free.addresses endpoint (same.subset member)
  tcpPorts := (((same.filterMap _).append_left _).nodup_iff).mpr free.tcpPorts
  udpPorts := ((same.filterMap _).nodup_iff).mpr free.udpPorts
  baud endpoint member := free.baud endpoint (same.subset member)
  msgIds endpoint member := free.msgIds endpoint (same.subset member)
  busCapacity := free.busCapacity
  pruneInterval := free.pruneInterval

theorem accepts_conflict_free (config : Config) :
    (config.validate = .ok () ↔ config.ConflictFree) ∧
    (∀ reordered : List EndpointConfig, reordered.Perm config.endpoint →
      ({ config with endpoint := reordered }.validate = .ok () ↔ config.validate = .ok ())) ∧
    ∀ remaining : List EndpointConfig, remaining.Sublist config.endpoint → config.validate = .ok () →
      { config with endpoint := remaining }.validate = .ok () := by
  refine ⟨validate_conflictFree config, ?_, ?_⟩
  · intro reordered same
    rw [validate_conflictFree, validate_conflictFree]
    exact ⟨fun free => free.reorder config.endpoint same.symm, fun free => free.reorder reordered same⟩
  · intro remaining removed accepted
    rw [validate_conflictFree] at accepted ⊢
    exact accepted.remove remaining removed

theorem accepts_conflict_free_pair :
    let tcp : EndpointConfig := .tcp "0.0.0.0:5760" .server {} none
    let udp : EndpointConfig := .udp "0.0.0.0:5760" .server 5 {} none
    let config : Config := { endpoint := [tcp, udp] }
    { config with endpoint := [udp, tcp] }.validate = .ok () ∧ { config with endpoint := [udp] }.validate = .ok () := by
  intro tcp udp config
  have accepted : config.validate = .ok () := by decide +kernel
  exact ⟨((accepts_conflict_free config).2.1 [udp, tcp] (List.Perm.swap tcp udp [])).mpr accepted,
    (accepts_conflict_free config).2.2 [udp] (List.sublist_cons_self tcp [udp]) accepted⟩

end Config

end MavRouter
