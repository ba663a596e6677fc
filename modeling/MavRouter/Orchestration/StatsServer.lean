import MavRouter.Ingress.Core
import MavRouter.Orchestration.SpawnAll
import MavRouter.Shared.Json.Values

set_option autoImplicit false

namespace MavRouter.Orchestration

open Ingress Routing Json

-- The name goes in as it is.
def endpointEntry (epId : EndpointId) (epName : String) (snap : EndpointStats) : String :=
  s!"\x7b\"id\":{epId.id},\"name\":\"{epName}\",\"msgs_in\":{snap.msgsIn},\"msgs_out\":{snap.msgsOut}" ++
    s!",\"bytes_in\":{snap.bytesIn},\"bytes_out\":{snap.bytesOut},\"errors\":{snap.errors}\x7d"

-- What the stats socket answers to a command, which is trimmed; stats are those of the routing table.
def respond (stats : RoutingStats) (epStats : List (EndpointId × String × EndpointStats)) (command : String) : String :=
  if command = "stats" then
    s!"\x7b\"total_systems\":{stats.totalSystems},\"total_routes\":{stats.totalRoutes}" ++
      s!",\"total_endpoints\":{stats.totalEndpoints},\"timestamp\":{stats.timestamp}\x7d"
  else if command = "endpoint_stats" then
    let entries := epStats.map fun entry => endpointEntry entry.1 entry.2.1 entry.2.2
    "[" ++ ",".intercalate entries ++ "]"
  else if command = "help" then "Available commands: stats, endpoint_stats, help"
  else "Unknown command. Try 'help'"

def counter (count : UInt64) : Value := .number (.ofNat count.toNat)

def endpointValue (epId : EndpointId) (epName : String) (snap : EndpointStats) : Value :=
  .object
    [("id", .number (.ofNat epId.id)), ("name", .string epName), ("msgs_in", counter snap.msgsIn),
      ("msgs_out", counter snap.msgsOut), ("bytes_in", counter snap.bytesIn), ("bytes_out", counter snap.bytesOut),
      ("errors", counter snap.errors)]

def endpointsValue (epStats : List (EndpointId × String × EndpointStats)) : Value :=
  .array (epStats.map fun entry => endpointValue entry.1 entry.2.1 entry.2.2)

def statsValue (stats : RoutingStats) : Value :=
  .object
    [("total_systems", .number (.ofNat stats.totalSystems)), ("total_routes", .number (.ofNat stats.totalRoutes)),
      ("total_endpoints", .number (.ofNat stats.totalEndpoints)), ("timestamp", .number (.ofNat stats.timestamp))]

def PlainName (epName : String) : Prop := ∀ c ∈ epName.toList, Plain c

def member (key : String) (n : Nat) (rest : List Char) : List Char :=
  '"' :: (key.toList ++ '"' :: ':' :: (Nat.toDigits 10 n ++ rest))

theorem lex_member (key : String) (n : Nat) (c : Char) (rest : List Char) (tokens : List Token)
    (plain : key.toList.all (fun c => decide (Plain c)) = true) (stop : inNumber c = false) :
    lex (member key n (c :: rest)) = some (.string key :: .colon :: .number (.ofNat n) :: tokens) ↔
      lex (c :: rest) = some tokens := by
  rw [member, lex_plain _ _ _ (each_of_all plain), lex_symbol _ _ _ _ rfl, lex_natural _ _ _ _ stop]

theorem endpointEntry_toList (epId : EndpointId) (epName : String) (snap : EndpointStats) (rest : List Char) :
    (endpointEntry epId epName snap).toList ++ rest =
      '\x7b' :: member "id" epId.id
        (',' :: '"' :: ("name".toList ++ '"' :: ':' :: '"' :: (epName.toList ++ '"' :: ',' ::
          member "msgs_in" snap.msgsIn.toNat (',' :: member "msgs_out" snap.msgsOut.toNat
            (',' :: member "bytes_in" snap.bytesIn.toNat (',' :: member "bytes_out" snap.bytesOut.toNat
              (',' :: member "errors" snap.errors.toNat ('\x7d' :: rest)))))))) := by
  simp [endpointEntry, member, toString]

theorem endpointValue_tokens (epId : EndpointId) (epName : String) (snap : EndpointStats) (tokens : List Token) :
    (endpointValue epId epName snap).tokens ++ tokens =
      .openObject :: .string "id" :: .colon :: .number (.ofNat epId.id) :: .comma ::
        .string "name" :: .colon :: .string epName :: .comma ::
        .string "msgs_in" :: .colon :: .number (.ofNat snap.msgsIn.toNat) :: .comma ::
        .string "msgs_out" :: .colon :: .number (.ofNat snap.msgsOut.toNat) :: .comma ::
        .string "bytes_in" :: .colon :: .number (.ofNat snap.bytesIn.toNat) :: .comma ::
        .string "bytes_out" :: .colon :: .number (.ofNat snap.bytesOut.toNat) :: .comma ::
        .string "errors" :: .colon :: .number (.ofNat snap.errors.toNat) :: .closeObject :: tokens :=
  rfl

theorem lex_endpointEntry (epId : EndpointId) (epName : String) (snap : EndpointStats) (rest : List Char)
    (tokens : List Token) :
    lex ((endpointEntry epId epName snap).toList ++ rest) = some ((endpointValue epId epName snap).tokens ++ tokens) ↔
      PlainName epName ∧ lex rest = some tokens := by
  rw [endpointEntry_toList, endpointValue_tokens, lex_symbol _ _ _ _ rfl, lex_member _ _ _ _ _ (by decide) rfl,
    lex_symbol _ _ _ _ rfl, lex_plain _ _ _ (each_of_all (by decide)), lex_symbol _ _ _ _ rfl]
  by_cases plain : PlainName epName
  · rw [lex_plain _ _ _ plain, lex_symbol _ _ _ _ rfl]
    iterate 4 rw [lex_member _ _ _ _ _ (by decide) rfl, lex_symbol _ _ _ _ rfl]
    rw [lex_member _ _ _ _ _ (by decide) rfl, lex_symbol _ _ _ _ rfl]
    exact (and_iff_right plain).symm
  · constructor
    · intro lexed
      exact absurd (plain_of_lex epName _ ',' _ (by decide) lexed) plain
    · intro both
      exact absurd both.1 plain

theorem lex_entries (epStats : List (EndpointId × String × EndpointStats)) :
    lex ((",".intercalate (epStats.map fun entry => endpointEntry entry.1 entry.2.1 entry.2.2)).toList ++ [']']) =
        some (joined .closeArray (epStats.map fun entry => (endpointValue entry.1 entry.2.1 entry.2.2).tokens)) ↔
      ∀ entry ∈ epStats, PlainName entry.2.1 := by
  have ended : lex [']'] = some [.closeArray] := rfl
  induction epStats with
  | nil => simpa [joined] using ended
  | cons entry rest ih =>
    rw [List.forall_mem_cons, List.map_cons, List.map_cons]
    by_cases single : rest = []
    · subst single
      rw [List.map_nil, List.map_nil, String.intercalate_singleton, joined, lex_endpointEntry]
      simp [ended]
    · have comma : ",".toList = [','] := rfl
      rw [String.intercalate_cons_of_ne_nil (by simpa using single), joined_cons _ _ (by simpa using single),
        String.toList_append, String.toList_append, List.append_assoc, List.append_assoc, lex_endpointEntry, comma,
        List.singleton_append, lex_symbol _ _ _ _ rfl]
      exact and_congr_right' ih

theorem endpoint_stats_decode (stats : RoutingStats) (epStats : List (EndpointId × String × EndpointStats)) :
    decode (respond stats epStats "endpoint_stats") = some (endpointsValue epStats) ↔
      ∀ entry ∈ epStats, PlainName entry.2.1 := by
  have opened : "[".toList = ['['] := rfl
  have closed : "]".toList = [']'] := rfl
  rw [decode_eq_some_iff, respond, if_neg (by decide), if_pos rfl, String.toList_append, String.toList_append,
    opened, closed, List.append_assoc, List.singleton_append, endpointsValue, Value.tokens, itemTokens_eq,
    List.map_map, lex_symbol _ _ _ _ rfl, ← lex_entries]
  rfl

def usbSerial : Config :=
  { endpoint := [.serial "/dev/serial/by-id/usb-FTDI\\x20UART-if00" (.fixed 57600) .none {} none] }

def OrchestratedRouter.snapshots (orchestrated : OrchestratedRouter) (snap : EndpointStats) :
    List (EndpointId × String × EndpointStats) :=
  orchestrated.endpointStats.map fun endpoint => (endpoint.1, endpoint.2, snap)

-- A device that udev has named with an escape of its own, which is none of JSON.
theorem usbSerial_unreadable :
    usbSerial.validate = .ok () ∧
      (∃ orchestrated, spawnAll 64 usbSerial = .ok orchestrated ∧
        decode (respond (RoutingTable.new.stats 0) (orchestrated.snapshots ⟨0, 0, 0, 0, 0, 0⟩) "endpoint_stats") =
          none) ∧
      ¬∀ (stats : RoutingStats) (epStats : List (EndpointId × String × EndpointStats)),
        decode (respond stats epStats "endpoint_stats") = some (endpointsValue epStats) := by
  let name := "Serial Endpoint 0 (/dev/serial/by-id/usb-FTDI\\x20UART-if00)"
  have unreadable (stats : RoutingStats) :
      decode (respond stats [(⟨0⟩, name, ⟨0, 0, 0, 0, 0, 0⟩)] "endpoint_stats") = none := by
    rw [respond, if_neg (by decide), if_pos rfl, ← Option.isNone_iff_eq_none]
    decide +kernel
  have named : (spawnAll 64 usbSerial).toOption.map OrchestratedRouter.endpointStats = some [(⟨0⟩, name)] := by rfl
  refine ⟨rfl, ?_, ?_⟩
  · cases spawned : spawnAll 64 usbSerial with
    | error panic =>
      rw [spawned] at named
      cases named
    | ok orchestrated =>
      rw [spawned] at named
      have names : orchestrated.endpointStats = [(⟨0⟩, name)] := Option.some.inj named
      refine ⟨orchestrated, rfl, ?_⟩
      rw [OrchestratedRouter.snapshots, names, List.map_singleton]
      exact unreadable _
  · intro claimed
    have read := claimed (RoutingTable.new.stats 0) [(⟨0⟩, name, ⟨0, 0, 0, 0, 0, 0⟩)]
    rw [unreadable] at read
    cases read

theorem stats_decode (stats : RoutingStats) (epStats : List (EndpointId × String × EndpointStats)) :
    decode (respond stats epStats "stats") = some (statsValue stats) := by
  have ended : lex ['\x7d'] = some [.closeObject] := rfl
  have text : (respond stats epStats "stats").toList =
      '\x7b' :: member "total_systems" stats.totalSystems (',' :: member "total_routes" stats.totalRoutes
        (',' :: member "total_endpoints" stats.totalEndpoints (',' :: member "timestamp" stats.timestamp
          ['\x7d']))) := by
    rw [respond, if_pos rfl]
    simp [member, toString]
  have tokens : (statsValue stats).tokens =
      .openObject :: .string "total_systems" :: .colon :: .number (.ofNat stats.totalSystems) :: .comma ::
        .string "total_routes" :: .colon :: .number (.ofNat stats.totalRoutes) :: .comma ::
        .string "total_endpoints" :: .colon :: .number (.ofNat stats.totalEndpoints) :: .comma ::
        .string "timestamp" :: .colon :: .number (.ofNat stats.timestamp) :: [.closeObject] :=
    rfl
  rw [decode_eq_some_iff, text, tokens, lex_symbol _ _ _ _ rfl]
  iterate 3 rw [lex_member _ _ _ _ _ (by decide) rfl, lex_symbol _ _ _ _ rfl]
  rw [lex_member _ _ _ _ _ (by decide) rfl, ended]

def endpointPlace : EndpointConfig → String
  | .udp address _ _ _ _ => address
  | .tcp address _ _ _ => address
  | .serial device _ _ _ _ => device

theorem plainName_append (front back : String) : PlainName (front ++ back) ↔ PlainName front ∧ PlainName back := by
  simp only [PlainName, String.toList_append, List.mem_append, or_imp, forall_and]

theorem plainName_toString (n : Nat) : PlainName (toString n) := by
  intro c member
  apply Plain.of_isDigit
  apply Nat.isDigit_of_mem_toDigits (b := 10) (n := n) (by decide) (by decide)
  rwa [← Nat.toList_repr]

theorem plainName_of_all (name : String) (all : name.toList.all (fun c => decide (Plain c)) = true) : PlainName name :=
  each_of_all all

theorem plainName_between (kind place : String) (i : Nat) (starts : PlainName kind) :
    PlainName (kind ++ toString i ++ " (" ++ place ++ ")") ↔ PlainName place := by
  constructor
  · intro whole
    exact ((plainName_append _ _).mp ((plainName_append _ _).mp whole).1).2
  · intro inner
    have numbered := (plainName_append _ _).mpr ⟨starts, plainName_toString i⟩
    have opened := (plainName_append _ _).mpr ⟨numbered, plainName_of_all " (" (by decide +kernel)⟩
    have placed := (plainName_append _ _).mpr ⟨opened, inner⟩
    exact (plainName_append _ _).mpr ⟨placed, plainName_of_all ")" (by decide +kernel)⟩

theorem buildEndpointContext_plain (i : Nat) (cfg : EndpointConfig) (stats : Nat) :
    PlainName (buildEndpointContext i cfg stats).1 ↔ PlainName (endpointPlace cfg) := by
  cases cfg with
  | udp address => exact plainName_between _ address i (plainName_of_all _ (by decide +kernel))
  | tcp address => exact plainName_between _ address i (plainName_of_all _ (by decide +kernel))
  | serial device => exact plainName_between _ device i (plainName_of_all _ (by decide +kernel))

theorem implicitServer_plain (config : Config) : ∀ task ∈ (implicitServer config).toList, PlainName task.1.name := by
  have server : PlainName "Implicit TCP Server :" := plainName_of_all _ (by decide +kernel)
  intro task member
  obtain ⟨port, -, rfl⟩ := Option.map_eq_some_iff.mp (Option.mem_toList.mp member)
  exact (plainName_append _ _).mpr ⟨server, plainName_toString port.toNat⟩

theorem names_plain (bucketBytes : Nat) (config : Config) (orchestrated : OrchestratedRouter)
    (spawned : spawnAll bucketBytes config = .ok orchestrated) :
    (∀ endpoint ∈ orchestrated.endpointStats, PlainName endpoint.2) ↔
      ∀ cfg ∈ config.endpoint, PlainName (endpointPlace cfg) := by
  obtain ⟨bus, -, dedup, -, rfl⟩ := (spawnAll_ok bucketBytes config orchestrated).mp spawned
  have configured : (∀ task ∈ configuredEndpoints config, PlainName task.1.name) ↔
      ∀ cfg ∈ config.endpoint, PlainName (endpointPlace cfg) := by
    constructor
    · intro plain cfg member
      obtain ⟨i, inside, rfl⟩ := List.mem_iff_getElem.mp member
      exact (buildEndpointContext_plain i _ ((implicitServer config).toList.length + i)).mp
        (plain _ (List.mem_mapIdx.mpr ⟨i, inside, rfl⟩))
    · intro plain task member
      obtain ⟨i, inside, rfl⟩ := List.mem_mapIdx.mp member
      exact (buildEndpointContext_plain i _ ((implicitServer config).toList.length + i)).mpr
        (plain _ (List.getElem_mem inside))
  simp only [List.forall_mem_map, List.forall_mem_append, configured]
  exact and_iff_right (implicitServer_plain config)

end MavRouter.Orchestration
