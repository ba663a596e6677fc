import Mathlib.Data.List.Sort
import Mathlib.Data.String.Basic
import MavRouter.Config.Validate

set_option autoImplicit false

namespace MavRouter

/-- Files and directories at the time of a load; an entry without a name is one that is not Unicode. -/
structure FileSystem where
  readToString : String → Except IoError String
  readDir : String → Except IoError (List (Except IoError (Option String)))

-- The part behind the last dot, unless the name starts with that dot.
def extension (name : String) : Option String :=
  let reversed := name.toList.reverse
  let after := (reversed.takeWhile fun c => decide (c ≠ '.')).reverse
  match reversed.dropWhile fun c => decide (c ≠ '.') with
  | _ :: _ :: _ => some (String.ofList after)
  | _ => none

def join (dirPath filename : String) : String :=
  if dirPath.isEmpty then filename
  else if dirPath.toList.getLast? = some '/' then dirPath ++ filename
  else dirPath ++ "/" ++ filename

namespace Config

variable (fs : FileSystem) (fromStr : String → Except TomlError Config)

def parse (toml : String) : Except RouterError Config := do
  let config ← (fromStr toml).mapError RouterError.configParse
  config.validate
  .ok config

def load (path : String) : Except RouterError Config := do
  let content ← (fs.readToString path).mapError (RouterError.filesystem path)
  parse fromStr content

def tomlFiles : List (Except IoError (Option String)) → Except IoError (List String)
  | [] => .ok []
  | .error e :: _ => .error e
  | .ok name :: rest => do
    let later ← tomlFiles rest
    .ok ((name.filter fun name => decide (extension name = some "toml")).toList ++ later)

def mergeFiles (dirPath : String) : List String → Config → Except RouterError Config
  | [], merged => .ok merged
  | filename :: rest, merged => do
    let filePath := join dirPath filename
    let content ← (fs.readToString filePath).mapError (RouterError.filesystem filePath)
    let config ← (fromStr content).mapError (RouterError.configParseFile filePath)
    mergeFiles dirPath rest (merged.merge config)

def loadDir (path : String) : Except RouterError Config := do
  let entries ← (fs.readDir path).mapError (RouterError.filesystem path)
  let files ← (tomlFiles entries).mapError (RouterError.filesystem path)
  let merged ← mergeFiles fs fromStr path (files.insertionSort (· ≤ ·)) default
  merged.validate
  .ok merged

def loadMerged (file dir : Option String) : Except RouterError Config := do
  let config ←
    match file with
    | some path => load fs fromStr path
    | none => .ok default
  match dir with
  | none => .ok config
  | some dirPath => do
    let dirConfig ← loadDir fs fromStr dirPath
    let config := config.merge dirConfig
    config.validate
    .ok config

structure Fragments (dir : String) (parts : List (String × Config)) : Prop where
  listed : ∃ entries : List (Option String), fs.readDir dir = .ok (entries.map .ok) ∧
    (entries.flatMap fun name => (name.filter fun name => decide (extension name = some "toml")).toList).Perm
      (parts.map Prod.fst)
  alphabetical : (parts.map Prod.fst).Pairwise (· < ·)
  contents : ∀ part ∈ parts, ∃ text, fs.readToString (join dir part.1) = .ok text ∧ fromStr text = .ok part.2

structure MainFile (file : String) (main : Config) : Prop where
  content : ∃ text, fs.readToString file = .ok text ∧ fromStr text = .ok main

theorem tomlFiles_ok (entries : List (Option String)) :
    tomlFiles (entries.map .ok) =
      .ok (entries.flatMap fun name => (name.filter fun name => decide (extension name = some "toml")).toList) := by
  induction entries with
  | nil => rfl
  | cons name rest ih =>
    rw [List.map_cons, tomlFiles, ih, List.flatMap_cons]
    rfl

theorem sorted_files (files names : List String) (same : files.Perm names) (alphabetical : names.Pairwise (· < ·)) :
    files.insertionSort (· ≤ ·) = names := by
  apply List.Perm.eq_of_pairwise' (r := (· ≤ ·))
  · exact List.pairwise_insertionSort _ files
  · exact alphabetical.imp le_of_lt
  · exact (List.perm_insertionSort _ files).trans same

theorem mergeFiles_ok (dir : String) (parts : List (String × Config))
    (contents : ∀ part ∈ parts, ∃ text, fs.readToString (join dir part.1) = .ok text ∧ fromStr text = .ok part.2)
    (merged : Config) :
    mergeFiles fs fromStr dir (parts.map Prod.fst) merged = .ok ((parts.map Prod.snd).foldl merge merged) := by
  induction parts generalizing merged with
  | nil => rfl
  | cons part rest ih =>
    obtain ⟨text, read, parsed⟩ := contents part (by simp)
    have later := ih (fun other member => contents other (List.mem_cons_of_mem part member)) (merged.merge part.2)
    rw [List.map_cons, List.map_cons, List.foldl_cons, ← later, mergeFiles, read]
    change (Except.mapError _ (fromStr text) >>= fun config => _) = _
    rw [parsed]
    rfl

variable {fs fromStr}

theorem validated (config result : Config) :
    (config.validate >>= fun _ => Except.ok config) = .ok result ↔ config.Valid ∧ result = config := by
  rw [then_ok, validate_ok, Except.ok.injEq, eq_comm (a := config)]

theorem loadDir_ok (dir : String) (parts : List (String × Config)) (fragments : Fragments fs fromStr dir parts)
    (result : Config) :
    loadDir fs fromStr dir = .ok result ↔
      Config.Valid ((parts.map Prod.snd).foldl merge default) ∧ result = (parts.map Prod.snd).foldl merge default := by
  obtain ⟨entries, listing, same⟩ := fragments.listed
  rw [← validated, loadDir, listing]
  change (Except.mapError _ (tomlFiles (entries.map .ok)) >>= fun files => _) = _ ↔ _
  rw [tomlFiles_ok]
  change (mergeFiles fs fromStr dir (List.insertionSort _ _) default >>= fun merged => _) = _ ↔ _
  rw [sorted_files _ _ same fragments.alphabetical, mergeFiles_ok fs fromStr dir parts fragments.contents]
  rfl

theorem load_ok (file : String) (main result : Config) (given : MainFile fs fromStr file main) :
    load fs fromStr file = .ok result ↔ main.Valid ∧ result = main := by
  obtain ⟨text, read, parsed⟩ := given.content
  rw [← validated, load, read]
  change parse fromStr text = _ ↔ _
  rw [parse, parsed]
  rfl

theorem loadMerged_ok (file dir : String) (main : Config) (parts : List (String × Config))
    (given : MainFile fs fromStr file main) (fragments : Fragments fs fromStr dir parts) (result : Config) :
    loadMerged fs fromStr (some file) (some dir) = .ok result ↔
      main.Valid ∧ Config.Valid ((parts.map Prod.snd).foldl merge default) ∧
        (main.merge ((parts.map Prod.snd).foldl merge default)).Valid ∧
        result = main.merge ((parts.map Prod.snd).foldl merge default) := by
  simp only [loadMerged, bind_ok, load_ok file main _ given, loadDir_ok dir parts fragments]
  constructor
  · rintro ⟨_, ⟨valid, rfl⟩, _, ⟨validDir, rfl⟩, ⟨⟩, validBoth, same⟩
    exact ⟨valid, validDir, (validate_ok _).mp validBoth, (Except.ok.inj same).symm⟩
  · rintro ⟨valid, validDir, validBoth, rfl⟩
    exact ⟨_, ⟨valid, rfl⟩, _, ⟨validDir, rfl⟩, (), (validate_ok _).mpr validBoth, rfl⟩

theorem loadMerged_folds (file dir : String) (main : Config) (parts : List (String × Config))
    (given : MainFile fs fromStr file main) (fragments : Fragments fs fromStr dir parts) (result : Config)
    (loaded : loadMerged fs fromStr (some file) (some dir) = .ok result) :
    result = (parts.map Prod.snd).foldl merge main ↔ parts ≠ [] ∨ LeavesDefaults main.general := by
  obtain ⟨_, _, _, rfl⟩ := (loadMerged_ok file dir main parts given fragments result).mp loaded
  rw [foldl_merge_iff, ne_eq, List.map_eq_nil_iff]

theorem merge_valid (config other : Config) (valid : (config.merge other).Valid) : other.Valid where
  endpoints endpoint member := valid.endpoints endpoint (List.mem_append_right _ member)
  ports := by
    refine valid.ports.sublist ?_
    simp only [ports, merge, List.filterMap_append]
    apply List.Sublist.append
    · cases other.general.tcpPort with
      | none => exact List.nil_sublist _
      | some tcpPort => exact List.Sublist.refl _
    · exact List.sublist_append_right _ _
  busCapacity := valid.busCapacity
  pruneInterval := valid.pruneInterval

theorem merge_default_valid (config : Config) (valid : config.Valid) : (config.merge default).Valid where
  endpoints endpoint member := by
    simp only [merge, default, List.append_nil] at member
    exact valid.endpoints endpoint member
  ports := by
    have same : (config.merge default).ports = config.ports := by
      simp [ports, merge, default]
    rw [same]
    exact valid.ports
  busCapacity := (by decide : (10 : UInt64) ≤ defaultBusCapacity ∧ defaultBusCapacity ≤ 1000000)
  pruneInterval := (by decide : defaultRoutingTablePruneIntervalSecs ≠ 0)

theorem loadMerged_errs (file dir : String) (main : Config) (parts : List (String × Config))
    (given : MainFile fs fromStr file main) (fragments : Fragments fs fromStr dir parts) :
    (∃ e, loadMerged fs fromStr (some file) (some dir) = .error e) ↔
      ¬main.Valid ∨ ¬(main.merge ((parts.map Prod.snd).foldl merge default)).Valid := by
  have succeeds : (∃ result, loadMerged fs fromStr (some file) (some dir) = .ok result) ↔
      main.Valid ∧ (main.merge ((parts.map Prod.snd).foldl merge default)).Valid := by
    simp only [loadMerged_ok file dir main parts given fragments]
    exact ⟨fun ⟨_, valid, _, both, _⟩ => ⟨valid, both⟩, fun ⟨valid, both⟩ =>
      ⟨_, valid, merge_valid _ _ both, both, rfl⟩⟩
  rw [← not_and_or, ← succeeds]
  cases loadMerged fs fromStr (some file) (some dir) <;> simp

theorem loadMerged_errs_iff (file dir : String) (main : Config) (parts : List (String × Config))
    (given : MainFile fs fromStr file main) (fragments : Fragments fs fromStr dir parts) :
    let final := (parts.map Prod.snd).foldl merge main
    ((∃ e, loadMerged fs fromStr (some file) (some dir) = .error e) ↔ ∃ e, final.validate = .error e) ↔
      main.validate = .ok () ∨ ∃ e, final.validate = .error e := by
  intro final
  have refused (config : Config) : (∃ e, config.validate = .error e) ↔ ¬config.Valid := by
    rw [← validate_ok]
    cases config.validate <;> simp
  have both : ¬main.Valid ∨ ¬(main.merge ((parts.map Prod.snd).foldl merge default)).Valid ↔
      ¬main.Valid ∨ ¬final.Valid := by
    by_cases empty : parts = []
    · subst empty
      have neutral := merge_default_valid main
      change _ ∨ ¬(main.merge default).Valid ↔ _ ∨ ¬main.Valid
      tauto
    · rw [foldl_merge main _ (by simpa using empty)]
  rw [loadMerged_errs file dir main parts given fragments, refused, validate_ok, both]
  tauto

def busCapacityToml : String → Except TomlError Config
  | "" => .ok {}
  | "[general]\nbus_capacity = 5\n" => .ok { general := { busCapacity := 5 } }
  | "[general]\nbus_capacity = 1000\n" => .ok { general := { busCapacity := 1000 } }
  | "[general]\nbus_capacity = 20\ntcp_port = 5760\n" => .ok { general := { busCapacity := 20, tcpPort := some 5760 } }
  | _ => .error ⟨"TOML parse error"⟩

def twoFiles (main : String) (fragments : List String) (extra : String) : FileSystem where
  readToString path :=
    if path = "main.toml" then .ok main
    else if path = "conf.d/10-extra.toml" then .ok extra
    else .error ⟨"No such file or directory (os error 2)"⟩
  readDir path :=
    if path = "conf.d" then .ok (fragments.map fun name => .ok (some name))
    else .error ⟨"No such file or directory (os error 2)"⟩

def thousand : Config := { general := { busCapacity := 1000 } }

def twenty : Config := { general := { busCapacity := 20, tcpPort := some 5760 } }

theorem loadMerged_folds_thousand :
    let files := twoFiles "[general]\nbus_capacity = 20\ntcp_port = 5760\n" ["10-extra.toml"]
      "[general]\nbus_capacity = 1000\n"
    let loaded : Config := { general := { busCapacity := 1000, tcpPort := some 5760 } }
    loadMerged files busCapacityToml (some "main.toml") (some "conf.d") = .ok loaded ∧
      loaded = [thousand].foldl merge twenty := by
  intro files loaded
  have succeeds : loadMerged files busCapacityToml (some "main.toml") (some "conf.d") = .ok loaded := rfl
  refine ⟨succeeds, ?_⟩
  refine (loadMerged_folds "main.toml" "conf.d" twenty [("10-extra.toml", thousand)] ⟨_, rfl, rfl⟩ ?_ _ succeeds).mpr
    (.inl (by simp))
  exact ⟨⟨[some "10-extra.toml"], rfl, List.Perm.refl _⟩, List.pairwise_singleton _ _, by simpa using ⟨_, rfl, rfl⟩⟩

theorem empty_directory_resets :
    ¬∀ (fs : FileSystem) (fromStr : String → Except TomlError Config) (file dir : String) (main : Config)
        (parts : List (String × Config)), MainFile fs fromStr file main → Fragments fs fromStr dir parts →
        ∀ result, loadMerged fs fromStr (some file) (some dir) = .ok result →
          result = (parts.map Prod.snd).foldl merge main := by
  intro claimed
  have same := claimed (twoFiles "[general]\nbus_capacity = 1000\n" [] "") busCapacityToml "main.toml" "conf.d"
    thousand []
    ⟨_, rfl, rfl⟩ ⟨⟨[], rfl, List.Perm.refl _⟩, List.Pairwise.nil, by simp⟩ (thousand.merge default) rfl
  have capacity := congrArg (fun config => config.general.busCapacity) same
  revert capacity
  decide

theorem loadMerged_errs_iff_thousand :
    (∃ e, loadMerged (twoFiles "" ["10-extra.toml"] "[general]\nbus_capacity = 5\n") busCapacityToml (some "main.toml")
        (some "conf.d") = .error e) ↔
      ∃ e, ([{ general := { busCapacity := 5 } }].foldl merge default).validate = .error e := by
  refine (loadMerged_errs_iff "main.toml" "conf.d" default [("10-extra.toml", { general := { busCapacity := 5 } })]
    ⟨"", rfl, rfl⟩ ?_).mpr (.inl rfl)
  exact ⟨⟨[some "10-extra.toml"], rfl, List.Perm.refl _⟩, List.pairwise_singleton _ _, by simpa using ⟨_, rfl, rfl⟩⟩

theorem overridden_setting_refused :
    ¬∀ (fs : FileSystem) (fromStr : String → Except TomlError Config) (file dir : String) (main : Config)
        (parts : List (String × Config)), MainFile fs fromStr file main → Fragments fs fromStr dir parts →
        ((∃ e, loadMerged fs fromStr (some file) (some dir) = .error e) ↔
          ∃ e, ((parts.map Prod.snd).foldl merge main).validate = .error e) := by
  intro claimed
  have same := claimed (twoFiles "[general]\nbus_capacity = 5\n" ["10-extra.toml"] "[general]\nbus_capacity = 1000\n")
    busCapacityToml "main.toml" "conf.d" { general := { busCapacity := 5 } } [("10-extra.toml", thousand)] ⟨_, rfl, rfl⟩
    ⟨⟨[some "10-extra.toml"], rfl, List.Perm.refl _⟩, List.pairwise_singleton _ _, by simpa using ⟨_, rfl, rfl⟩⟩
  obtain ⟨e, refused⟩ := same.mp ⟨.configValidation "bus_capacity too small: 5", rfl⟩
  cases refused

end Config

end MavRouter
