import MavRouter.Config.Settings
import MavRouter.Config.SocketAddr

set_option autoImplicit false

namespace MavRouter

open Maps Ingress

inductive Protocol where
  | tcp
  | udp
  deriving DecidableEq, Repr

def Protocol.display : Protocol → String
  | .tcp => "TCP"
  | .udp => "UDP"

abbrev PortSet := HashSet (Protocol × UInt16)

namespace Config

def invalidAddress (i : Nat) (address : String) : RouterError :=
  .configValidation ("Invalid address in endpoint " ++ toString i ++ ": " ++ address ++
    " (invalid socket address syntax)")

-- The Tcp and the Udp arm differ in the protocol only.
def validateAddress (protocol : Protocol) (i : Nat) (address : String) (ports : PortSet) :
    Except RouterError PortSet :=
  match SocketAddr.parse address with
  | none => .error (invalidAddress i address)
  | some addr =>
    if (protocol, addr.port) ∈ ports then
      .error (.configValidation ("Duplicate " ++ protocol.display ++ " port " ++ toString addr.port ++
        " in endpoint " ++ toString i))
    else .ok (ports.insert (protocol, addr.port) ())

def refuseFirst {A : Type} (items : List A) (outOfRange : A → Bool) (context : A → String) :
    Except RouterError Unit :=
  match items.find? outOfRange with
  | some item => .error (.configValidation (context item))
  | none => .ok ()

def validateBaud (i : Nat) (rates : List UInt32) : Except RouterError Unit :=
  if rates.isEmpty then .error (.configValidation ("Empty baud rate list in endpoint " ++ toString i))
  else refuseFirst rates (fun rate => decide (rate < 300) || decide (4000000 < rate)) fun rate =>
    "Invalid baud rate in endpoint " ++ toString i ++ ": " ++ toString rate ++ " (must be 300-4000000)"

def validateEndpoint (i : Nat) (endpoint : EndpointConfig) (ports : PortSet) : Except RouterError PortSet :=
  match endpoint with
  | .tcp address _ _ _ => validateAddress .tcp i address ports
  | .udp address _ _ _ _ => validateAddress .udp i address ports
  | .serial _ baud _ _ _ => (validateBaud i baud.rates).map fun _ => ports

def checkMsgIds (i : Nat) (ids : HashSet UInt32) (typeStr : String) : Except RouterError Unit :=
  refuseFirst ids.keys (fun msgId => decide (65535 < msgId)) fun msgId =>
    "Invalid " ++ typeStr ++ " msg_id in endpoint " ++ toString i ++ ": " ++ toString msgId ++ " (must be <= 65535)"

def validateFilters (i : Nat) (filters : EndpointFilters) : Except RouterError Unit := do
  checkMsgIds i filters.allowMsgIdOut "allow_out"
  checkMsgIds i filters.blockMsgIdOut "block_out"
  checkMsgIds i filters.allowMsgIdIn "allow_in"
  checkMsgIds i filters.blockMsgIdIn "block_in"

def validateEndpoints : Nat → List EndpointConfig → PortSet → Except RouterError PortSet
  | _, [], ports => .ok ports
  | i, endpoint :: rest, ports => do
    let ports ← validateEndpoint i endpoint ports
    validateFilters i endpoint.filters
    validateEndpoints (i + 1) rest ports

def validateGeneral (general : GeneralConfig) : Except RouterError Unit :=
  if general.busCapacity < 10 then
    .error (.configValidation ("bus_capacity too small: " ++ toString general.busCapacity))
  else if 1000000 < general.busCapacity then
    .error (.configValidation ("bus_capacity too large: " ++ toString general.busCapacity ++ " (must be <= 1000000)"))
  else if general.routingTablePruneIntervalSecs = 0 then
    .error (.configValidation "routing_table_prune_interval_secs must be greater than 0")
  else .ok ()

def validate (config : Config) : Except RouterError Unit := do
  let ports : PortSet :=
    match config.general.tcpPort with
    | some tcpPort => (∅ : PortSet).insert (.tcp, tcpPort) ()
    | none => ∅
  let _ ← validateEndpoints 0 config.endpoint ports
  validateGeneral config.general

end Config

def EndpointConfig.address : EndpointConfig → Option (Protocol × String)
  | .tcp address _ _ _ => some (.tcp, address)
  | .udp address _ _ _ _ => some (.udp, address)
  | .serial .. => none

def EndpointConfig.port (endpoint : EndpointConfig) : Option (Protocol × UInt16) :=
  endpoint.address.bind fun listen => (SocketAddr.parse listen.2).map fun addr => (listen.1, addr.port)

def EndpointConfig.rates : EndpointConfig → Option (List UInt32)
  | .serial _ baud _ _ _ => some baud.rates
  | _ => none

def msgIdSets (filters : EndpointFilters) : List (HashSet UInt32) :=
  [filters.allowMsgIdOut, filters.blockMsgIdOut, filters.allowMsgIdIn, filters.blockMsgIdIn]

structure EndpointConfig.Sound (endpoint : EndpointConfig) : Prop where
  address : ∀ listen, endpoint.address = some listen → (SocketAddr.parse listen.2).isSome
  baud : ∀ rates, endpoint.rates = some rates → rates ≠ [] ∧ ∀ rate ∈ rates, 300 ≤ rate ∧ rate ≤ 4000000
  msgIds : ∀ ids ∈ msgIdSets endpoint.filters, ∀ msgId ∈ ids, msgId ≤ 65535

namespace Config

def ports (config : Config) : List (Protocol × UInt16) :=
  (config.general.tcpPort.map fun tcpPort => (Protocol.tcp, tcpPort)).toList ++
    config.endpoint.filterMap EndpointConfig.port

structure Valid (config : Config) : Prop where
  endpoints : ∀ endpoint ∈ config.endpoint, endpoint.Sound
  ports : config.ports.Nodup
  busCapacity : 10 ≤ config.general.busCapacity ∧ config.general.busCapacity ≤ 1000000
  pruneInterval : config.general.routingTablePruneIntervalSecs ≠ 0

def claim (ports : PortSet) : Option (Protocol × UInt16) → PortSet
  | none => ports
  | some port => ports.insert port ()

theorem mem_claim (ports : PortSet) (port : Option (Protocol × UInt16)) (other : Protocol × UInt16) :
    other ∈ claim ports port ↔ port = some other ∨ other ∈ ports := by
  cases port with
  | none => simp [claim]
  | some port => simp [claim, eq_comm]

theorem bind_ok {E A B : Type} (first : Except E A) (next : A → Except E B) (result : B) :
    (first >>= next) = .ok result ↔ ∃ a, first = .ok a ∧ next a = .ok result := by
  cases first with
  | error e => simp [bind, Except.bind]
  | ok a => simp [bind, Except.bind]

theorem then_ok {B : Type} (first : Except RouterError Unit) (next : Except RouterError B) (result : B) :
    (first >>= fun _ => next) = .ok result ↔ first = .ok () ∧ next = .ok result := by
  rw [bind_ok]
  exact ⟨fun ⟨_, done, later⟩ => ⟨done, later⟩, fun ⟨done, later⟩ => ⟨(), done, later⟩⟩

theorem refuseFirst_ok {A : Type} (items : List A) (outOfRange : A → Bool) (context : A → String) :
    refuseFirst items outOfRange context = .ok () ↔ ∀ item ∈ items, outOfRange item = false := by
  rw [refuseFirst]
  cases found : items.find? outOfRange with
  | none =>
    rw [List.find?_eq_none] at found
    simpa using found
  | some item =>
    simp only [reduceCtorEq, false_iff]
    intro fine
    have bad := List.find?_some found
    rw [fine item (List.mem_of_find?_eq_some found)] at bad
    cases bad

theorem validateAddress_ok (protocol : Protocol) (i : Nat) (address : String) (ports later : PortSet) :
    validateAddress protocol i address ports = .ok later ↔
      ∃ addr, SocketAddr.parse address = some addr ∧ (protocol, addr.port) ∉ ports ∧
        later = claim ports (some (protocol, addr.port)) := by
  rw [validateAddress]
  cases SocketAddr.parse address with
  | none => simp
  | some addr =>
    by_cases taken : (protocol, addr.port) ∈ ports
    · simp [taken]
    · simp [taken, claim, eq_comm]

theorem validateBaud_ok (i : Nat) (rates : List UInt32) :
    validateBaud i rates = .ok () ↔ rates ≠ [] ∧ ∀ rate ∈ rates, 300 ≤ rate ∧ rate ≤ 4000000 := by
  rw [validateBaud]
  by_cases empty : rates = []
  · simp [empty]
  · simp [empty, refuseFirst_ok]

theorem validateFilters_ok (i : Nat) (filters : EndpointFilters) :
    validateFilters i filters = .ok () ↔ ∀ ids ∈ msgIdSets filters, ∀ msgId ∈ ids, msgId ≤ 65535 := by
  have checked (ids : HashSet UInt32) (typeStr : String) :
      checkMsgIds i ids typeStr = .ok () ↔ ∀ msgId ∈ ids, msgId ≤ 65535 := by
    simp [checkMsgIds, refuseFirst_ok, AList.mem_keys]
  simp only [validateFilters, then_ok, checked, msgIdSets, List.forall_mem_cons, List.not_mem_nil, false_implies,
    implies_true, and_true]

theorem validateEndpoint_ok (i : Nat) (endpoint : EndpointConfig) (ports later : PortSet) :
    validateEndpoint i endpoint ports = .ok later ↔
      ((∀ listen, endpoint.address = some listen → (SocketAddr.parse listen.2).isSome) ∧
        ∀ rates, endpoint.rates = some rates → rates ≠ [] ∧ ∀ rate ∈ rates, 300 ≤ rate ∧ rate ≤ 4000000) ∧
      (∀ port, endpoint.port = some port → port ∉ ports) ∧ later = claim ports endpoint.port := by
  have listening (protocol : Protocol) (address : String) (own : endpoint.address = some (protocol, address))
      (silent : endpoint.rates = none) :
      validateAddress protocol i address ports = .ok later ↔
        ((∀ listen, endpoint.address = some listen → (SocketAddr.parse listen.2).isSome) ∧
          ∀ rates, endpoint.rates = some rates → rates ≠ [] ∧ ∀ rate ∈ rates, 300 ≤ rate ∧ rate ≤ 4000000) ∧
        (∀ port, endpoint.port = some port → port ∉ ports) ∧ later = claim ports endpoint.port := by
    rw [validateAddress_ok]
    simp only [EndpointConfig.port, own, silent, Option.bind_some, Option.some.injEq, forall_eq', reduceCtorEq,
      false_implies, implies_true, and_true]
    cases parsed : SocketAddr.parse address with
    | none => simp
    | some addr => simp
  cases endpoint with
  | tcp address mode filters group => exact listening .tcp address rfl rfl
  | udp address mode timeout filters group => exact listening .udp address rfl rfl
  | serial device baud flowControl filters group =>
    have checked := validateBaud_ok i baud.rates
    have silent : (EndpointConfig.serial device baud flowControl filters group).port = none := rfl
    have rated (rates : List UInt32) :
        (EndpointConfig.serial device baud flowControl filters group).rates = some rates ↔ baud.rates = rates :=
      Option.some_inj
    have nowhere : (EndpointConfig.serial device baud flowControl filters group).address = none := rfl
    simp only [silent, nowhere, rated, claim, reduceCtorEq, false_implies, implies_true, true_and, forall_eq',
      ← checked, validateEndpoint]
    cases validateBaud i baud.rates with
    | ok _ => simp [Except.map, eq_comm]
    | error e => simp [Except.map]

theorem validateEndpoints_ok (i : Nat) (endpoints : List EndpointConfig) (ports : PortSet) :
    (∃ later, validateEndpoints i endpoints ports = .ok later) ↔
      (∀ endpoint ∈ endpoints, endpoint.Sound) ∧ (endpoints.filterMap EndpointConfig.port).Nodup ∧
        ∀ port ∈ endpoints.filterMap EndpointConfig.port, port ∉ ports := by
  induction endpoints generalizing i ports with
  | nil => simp [validateEndpoints]
  | cons endpoint rest ih =>
    have head : endpoint.Sound ↔
        ((∀ listen, endpoint.address = some listen → (SocketAddr.parse listen.2).isSome) ∧
          ∀ rates, endpoint.rates = some rates → rates ≠ [] ∧ ∀ rate ∈ rates, 300 ≤ rate ∧ rate ≤ 4000000) ∧
        ∀ ids ∈ msgIdSets endpoint.filters, ∀ msgId ∈ ids, msgId ≤ 65535 :=
      ⟨fun sound => ⟨⟨sound.address, sound.baud⟩, sound.msgIds⟩, fun parts => ⟨parts.1.1, parts.1.2, parts.2⟩⟩
    have stepped : (∃ later, validateEndpoints i (endpoint :: rest) ports = .ok later) ↔
        endpoint.Sound ∧ (∀ port, endpoint.port = some port → port ∉ ports) ∧
          ∃ later, validateEndpoints (i + 1) rest (claim ports endpoint.port) = .ok later := by
      simp only [validateEndpoints, bind_ok, validateEndpoint_ok, head]
      constructor
      · rintro ⟨later, between, ⟨own, free, rfl⟩, ⟨⟩, ids, rest⟩
        exact ⟨⟨own, (validateFilters_ok i endpoint.filters).mp ids⟩, free, later, rest⟩
      · rintro ⟨⟨own, ids⟩, free, later, rest⟩
        exact ⟨later, _, ⟨own, free, rfl⟩, (), (validateFilters_ok i endpoint.filters).mpr ids, rest⟩
    rw [stepped, ih]
    simp only [mem_claim, not_or, List.forall_mem_cons]
    cases here : endpoint.port with
    | none =>
      rw [List.filterMap_cons_none here]
      simp
      tauto
    | some port =>
      rw [List.filterMap_cons_some here, List.nodup_cons, List.forall_mem_cons]
      simp only [Option.some.injEq, forall_eq']
      constructor
      · rintro ⟨own, free, others, distinct, apart⟩
        exact ⟨⟨own, others⟩, ⟨fun member => (apart port member).1 rfl, distinct⟩, free, fun p member =>
          (apart p member).2⟩
      · rintro ⟨⟨own, others⟩, ⟨fresh, distinct⟩, free, apart⟩
        refine ⟨own, free, others, distinct, ?_⟩
        intro p member
        exact ⟨fun same => fresh (same ▸ member), apart p member⟩

theorem validateGeneral_ok (general : GeneralConfig) :
    validateGeneral general = .ok () ↔
      (10 ≤ general.busCapacity ∧ general.busCapacity ≤ 1000000) ∧ general.routingTablePruneIntervalSecs ≠ 0 := by
  rw [validateGeneral]
  split_ifs with small large zero <;> simp_all

theorem validate_ok (config : Config) : config.validate = .ok () ↔ config.Valid := by
  have parts : config.Valid ↔ ((∀ endpoint ∈ config.endpoint, endpoint.Sound) ∧ config.ports.Nodup) ∧
      (10 ≤ config.general.busCapacity ∧ config.general.busCapacity ≤ 1000000) ∧
        config.general.routingTablePruneIntervalSecs ≠ 0 :=
    ⟨fun valid => ⟨⟨valid.endpoints, valid.ports⟩, valid.busCapacity, valid.pruneInterval⟩,
      fun parts => ⟨parts.1.1, parts.1.2, parts.2.1, parts.2.2⟩⟩
  have split (ports : PortSet) :
      (validateEndpoints 0 config.endpoint ports >>= fun _ => validateGeneral config.general) = .ok () ↔
        (∃ later, validateEndpoints 0 config.endpoint ports = .ok later) ∧ validateGeneral config.general = .ok () := by
    rw [bind_ok]
    exact ⟨fun ⟨later, done, rest⟩ => ⟨⟨later, done⟩, rest⟩, fun ⟨⟨later, done⟩, rest⟩ => ⟨later, done, rest⟩⟩
  rw [validate, split, validateEndpoints_ok, validateGeneral_ok, parts]
  apply and_congr_left
  intro _
  apply and_congr_right
  intro _
  rw [Config.ports]
  cases config.general.tcpPort with
  | none => simp
  | some tcpPort =>
    have own (port : Protocol × UInt16) :
        port ∈ (∅ : PortSet).insert (.tcp, tcpPort) () ↔ port = (.tcp, tcpPort) := by
      rw [AList.mem_insert]
      simp
    simp only [own, Option.map_some, Option.toList_some, List.singleton_append, List.nodup_cons]
    rw [and_comm]
    apply and_congr_left
    intro _
    exact ⟨fun apart member => apart _ member rfl, fun fresh port member same => fresh (same ▸ member)⟩

end Config

end MavRouter
