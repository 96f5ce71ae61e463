import Mathlib
import ToolGateway.CommandLine.Startup
import ToolGateway.Proofs.CommandLine.Options
import ToolGateway.Proofs.Settings.Environment
import ToolGateway.Proofs.Text.Utf8

/-!
# Where each setting comes from

Settings come from the flags of the command line, from variables of the environment and from a file, and
count in this order: a setting is what its flag is read as, without a flag what its variable is, without
a variable what the file writes for it, and the standard one if there is none of these (`chosen?`). This
holds for each setting on its own, whatever is given for the others (`Host.settings_layered`), so to give
one in addition, or to give it no more, leaves all others as they are.
-/

namespace ToolGateway

/-! ## What is given for a setting -/

/-- What is given for settings. -/
structure Sources where
  flags : List (String × String)
  environment : List (String × String)
  file : SettingLayer

namespace Sources

open SettingValue (guess)

variable (sources : Sources) (key : SettingKey)

/-- The text of the flag of a setting. -/
def flag? : Option String := key.option?.bind (Members.find? sources.flags)

/-- The text of the variable of a setting. -/
def assigned? : Option String := Members.find? sources.environment key.variableName

/-- The value that the file writes for a setting. -/
def written? : Option SettingValue := sources.file.value? key.table key.entry

/-- What is loaded for a setting, unless it is not read: the value of its variable, of the file without
one, or the standard value. -/
def loaded? : Option key.Value :=
  match sources.assigned? key, sources.written? key with
  | some text, _ => key.read? (guess text)
  | none, some value => key.read? value
  | none, none => some key.standard

/-- What is chosen for a setting: the value of its flag, or what is loaded. -/
def chosen? : Option key.Value :=
  match sources.flag? key with
  | some text => key.ofOption? text
  | none => sources.loaded? key

/-- Each flag is given once and has a value that suits it, only variables of settings are assigned, the
tables of the settings are tables in the file, and what is assigned or written for a setting can be read
by it. -/
structure WellTyped : Prop where
  flagsDiffer : (Members.names sources.flags).Nodup
  flagsSuit : ∀ flag ∈ sources.flags, Options.Suits flag.1 flag.2
  documented : Documented sources.environment
  assigned : ∀ (key : SettingKey) (text : String), sources.assigned? key = some text →
    ∃ value, key.read? (guess text) = some value
  tables : ∀ key : SettingKey, sources.file.OrderlyAt key.table key.entry
  written : ∀ (key : SettingKey) (value : SettingValue), sources.written? key = some value →
    ∃ result, key.read? value = some result

end Sources

/-- A host has these sources: its arguments are the flags, and its file is the one that the flags name,
if they name one. -/
structure Host.Brings {σ : Type} (host : Host σ) (sources : Sources) : Prop where
  arguments : Options.Written host.arguments sources.flags
  environment : host.environment = sources.environment
  file : Settings.fileLayer host.fileContent (Members.find? sources.flags "config") = .ok sources.file

/-! ## One setting more -/

namespace SettingKey

open SettingLayer (lowerKey)

/-- A layer and the same with a value for a setting in addition: as one more entry of a table, in a table
of its own, or under the path to it. -/
inductive Gives (key : SettingKey) : SettingLayer → SettingLayer → Prop where
  | entry {before after : SettingLayer} {t e : String} {front back : List (String × SettingValue)}
      {value : SettingValue} (leads : SettingPath.ofKey (lowerKey t) = [.entry key.table])
      (named : lowerKey e = key.entry) :
      Gives key (before ++ (t, .table (front ++ back)) :: after)
        (before ++ (t, .table (front ++ (e, value) :: back)) :: after)
  | table {before after : SettingLayer} {t e : String} {value : SettingValue}
      (leads : SettingPath.ofKey (lowerKey t) = [.entry key.table]) (named : lowerKey e = key.entry) :
      Gives key (before ++ after) (before ++ (t, .table [(e, value)]) :: after)
  | path {before after : SettingLayer} {t : String} {value : SettingValue}
      (leads : SettingPath.ofKey (lowerKey t) = [.entry key.table, .entry key.entry]) :
      Gives key (before ++ after) (before ++ (t, value) :: after)

end SettingKey

/-- Sources and the same with one setting given in addition, in one of them. -/
inductive Sources.Gives (key : SettingKey) : Sources → Sources → Prop where
  | flag {before after environment : List (String × String)} {file : SettingLayer}
      {name value : String} (own : key.option? = some name) :
      Gives key ⟨before ++ after, environment, file⟩
        ⟨before ++ (name, value) :: after, environment, file⟩
  | assigned {flags before after : List (String × String)} {file : SettingLayer} {text : String} :
      Gives key ⟨flags, before ++ after, file⟩
        ⟨flags, before ++ (key.variableName, text) :: after, file⟩
  | written {flags environment : List (String × String)} {file more : SettingLayer}
      (given : key.Gives file more) :
      Gives key ⟨flags, environment, file⟩ ⟨flags, environment, more⟩

/-! Giving one setting leaves what is given for the others. -/

theorem Members.find?_append_cons {α : Type} {name other : String} (different : name ≠ other)
    (before after : Members α) (value : α) :
    Members.find? (before ++ (name, value) :: after) other = Members.find? (before ++ after) other := by
  induction before with
  | nil => exact if_neg different
  | cons entry rest ih => simp only [List.cons_append, Members.find?, ih]

namespace SettingLayer

theorem writes_append (first second : SettingLayer) (table name : String) :
    writes (first ++ second) table name = writes first table name ++ writes second table name :=
  List.flatMap_append

/-- What is written to an entry, if one of the keys does not write to it. -/
theorem writes_append_cons {key table name : String} {value : SettingValue}
    (unwritten : writesAt table name (SettingPath.ofKey (lowerKey key)) value = [])
    (before after : SettingLayer) :
    writes (before ++ (key, value) :: after) table name = writes (before ++ after) table name := by
  rw [writes_append, writes_cons, unwritten, writes_append, List.nil_append]

theorem valuesOf_append_cons {key name : String} (different : lowerKey key ≠ name)
    (front back : List (String × SettingValue)) (value : SettingValue) :
    valuesOf name (front ++ (key, value) :: back) = valuesOf name (front ++ back) := by
  simp [valuesOf, different]

end SettingLayer

namespace SettingKey

open SettingLayer

variable {key other : SettingKey}

/-- The entries of a table that are not those of another setting. -/
theorem Gives.writes_eq {file more : SettingLayer} (given : key.Gives file more)
    (different : other ≠ key) :
    more.writes other.table other.entry = file.writes other.table other.entry := by
  have apart : key.table = other.table → key.entry ≠ other.entry := fun table entry =>
    different (eq_of_table_of_entry table entry).symm
  cases given with
  | @entry before after t e front back value leads named =>
    rw [writes_append, writes_append, writes_cons, writes_cons, leads, writesAt, writesAt,
      key.lowerKey_table]
    by_cases here : key.table = other.table
    · rw [if_pos here, if_pos here, valuesOf_append_cons (named ▸ apart here)]
    · rw [if_neg here, if_neg here]
  | @table before after t e value leads named =>
    refine writes_append_cons ?_ before after
    rw [leads, writesAt, key.lowerKey_table]
    by_cases here : key.table = other.table
    · rw [if_pos here]
      exact valuesOf_append_cons (named ▸ apart here) [] [] value
    · rw [if_neg here]
  | @path before after t value leads =>
    refine writes_append_cons ?_ before after
    rw [leads, writesAt, key.lowerKey_table, key.lowerKey_entry, if_neg]
    exact fun both => apart both.1 both.2

theorem option?_inj {name : String} (own : key.option? = some name) (same : other.option? = some name) :
    other = key := by
  have single : ∀ key ∈ all, ∀ other ∈ all, key.option? ≠ none → other.option? = key.option? →
      other = key := by decide
  refine single key key.mem_all other other.mem_all ?_ (same.trans own.symm)
  rw [own]
  exact nofun

end SettingKey

/-- What is chosen for a setting only depends on what is given for this one. -/
theorem Sources.Gives.chosen?_eq {key other : SettingKey} {sources more : Sources}
    (given : Sources.Gives key sources more) (different : other ≠ key) :
    more.chosen? other = sources.chosen? other := by
  cases given with
  | @flag before after environment file name value own =>
    have same : Sources.flag? ⟨before ++ (name, value) :: after, environment, file⟩ other =
        Sources.flag? ⟨before ++ after, environment, file⟩ other := by
      unfold flag?
      cases option : other.option? with
      | none => rfl
      | some another =>
        refine Members.find?_append_cons ?_ before after value
        rintro rfl
        exact different (SettingKey.option?_inj own option)
    rw [chosen?, same]
    rfl
  | @assigned flags before after file text =>
    have same : Sources.assigned? ⟨flags, before ++ (key.variableName, text) :: after, file⟩ other =
        Sources.assigned? ⟨flags, before ++ after, file⟩ other :=
      Members.find?_append_cons (fun same => different (SettingKey.variableName_inj same).symm)
        before after text
    rw [chosen?, loaded?, same]
    rfl
  | @written flags environment file more given =>
    have same : Sources.written? ⟨flags, environment, more⟩ other =
        Sources.written? ⟨flags, environment, file⟩ other := by
      rw [written?, SettingLayer.value?, given.writes_eq different]
      rfl
    rw [chosen?, loaded?, same]
    rfl

/-! ## What holds -/

theorem SettingKey.exists_settings (value : (key : SettingKey) → key.Value) :
    ∃ settings, ∀ key : SettingKey, key.of settings = value key := by
  refine ⟨⟨⟨value .name, value .logLevel⟩, ⟨value .definition, value .selection⟩,
    ⟨value .backend, value .endpoint, value .timeout⟩⟩, fun key => ?_⟩
  cases key <;> rfl

namespace Sources.WellTyped

open SettingLayer

variable {sources : Sources}

theorem exists_loaded? (typed : sources.WellTyped) (key : SettingKey) :
    ∃ value, sources.loaded? key = some value := by
  unfold loaded?
  split
  next text given => exact typed.assigned key text given
  next value _ given => exact typed.written key value given
  next => exact ⟨key.standard, rfl⟩

/-- What a setting comes to after the environment has been laid over the file. -/
theorem settle?_eq (typed : sources.WellTyped) (key : SettingKey) :
    ((ofEnvironment sources.environment).overlay (sources.file.overlay [])).settle? key =
      sources.loaded? key := by
  have held : ((ofEnvironment sources.environment).overlay (sources.file.overlay [])).held?
      key.table key.entry =
        ((sources.assigned? key).map SettingValue.guess).or (sources.written? key) := by
    rw [held?_overlay_environment typed.documented, held?_overlay_nil (typed.tables key)]
    rfl
  rw [settle?, SettingKey.settleIn, held, loaded?]
  cases sources.assigned? key with
  | some text => rfl
  | none => cases sources.written? key <;> rfl

/-- The file and the environment together make settings, each of which is what is loaded for it. -/
theorem exists_ofLayer? (typed : sources.WellTyped) : ∃ settings,
    Settings.ofLayer? ((ofEnvironment sources.environment).overlay (sources.file.overlay [])) =
      some settings ∧ ∀ key, sources.loaded? key = some (key.of settings) := by
  have tables : ∀ key : SettingKey, TableAt
      ((ofEnvironment sources.environment).overlay (sources.file.overlay [])) key.table := by
    intro key
    refine tableAt_overlay (orderlyAt_ofEnvironment typed.documented key.table key.entry) ?_
    exact tableAt_overlay (typed.tables key) nofun
  obtain ⟨settings, values⟩ := SettingKey.exists_settings fun key =>
    (typed.exists_loaded? key).choose
  have loaded : ∀ key, sources.loaded? key = some (key.of settings) := by
    intro key
    rw [values]
    exact (typed.exists_loaded? key).choose_spec
  exact ⟨settings, (Settings.ofLayer?_eq_some_iff tables).mpr fun key =>
    (typed.settle?_eq key).trans (loaded key), loaded⟩

end Sources.WellTyped

namespace Host

variable {σ : Type}

/-- Each setting of a host is what is chosen for it. -/
theorem exists_settings {host : Host σ} {sources : Sources} (brought : host.Brings sources)
    (typed : sources.WellTyped) : ∃ settings, host.settings = .ok settings ∧
      ∀ key, sources.chosen? key = some (key.of settings) := by
  obtain ⟨options, parsed, texts⟩ :=
    Options.parse_written brought.arguments typed.flagsDiffer typed.flagsSuit
  obtain ⟨settings, made, loaded⟩ := typed.exists_ofLayer?
  have load : Settings.load host.fileContent options.config host.environment = .ok settings := by
    have config : options.config = Members.find? sources.flags "config" := texts "config"
    rw [config, brought.environment]
    exact Settings.load_eq_ok_iff.mpr ⟨sources.file, brought.file, made⟩
  refine ⟨options.applyTo settings, by rw [Host.settings, parsed]; simp only [load], fun key => ?_⟩
  have flag : key.option?.bind options.text? = sources.flag? key := by
    rw [Sources.flag?]
    congr 1
    exact funext texts
  rw [key.of_applyTo, flag, Sources.chosen?]
  cases sources.flag? key with
  | some text => rfl
  | none => exact loaded key

/-- **Settings are layered key by key.** Where the sources are well typed, a host has settings, each of
which is what is chosen for it: what its flag is read as, or its variable, or the value of the file, or
the standard value. To give a setting in one of the sources, or to give it no more, changes no other
setting. -/
theorem settings_layered {host : Host σ} {sources : Sources} (brought : host.Brings sources)
    (typed : sources.WellTyped) : ∃ settings, host.settings = .ok settings ∧
      (∀ key, sources.chosen? key = some (key.of settings)) ∧
        ∀ (edited : SettingKey) (other : Host σ) (others : Sources),
          Sources.Gives edited sources others ∨ Sources.Gives edited others sources →
            other.Brings others → others.WellTyped →
              ∃ changed, other.settings = .ok changed ∧
                ∀ key, key ≠ edited → key.of changed = key.of settings := by
  obtain ⟨settings, loaded, chosen⟩ := exists_settings brought typed
  refine ⟨settings, loaded, chosen, fun edited other others edit otherBrought otherTyped => ?_⟩
  obtain ⟨changed, otherLoaded, otherChosen⟩ := exists_settings otherBrought otherTyped
  refine ⟨changed, otherLoaded, fun key different => ?_⟩
  have same : others.chosen? key = sources.chosen? key := by
    rcases edit with more | less
    · exact more.chosen?_eq different
    · exact (less.chosen?_eq different).symm
  rw [chosen, otherChosen] at same
  exact Option.some.inj same

/-! A server whose name is given by a flag and in the file, its log level by a variable, and its backend
by a variable and in the file. -/

def layeredText : String := "[server]\nname=\"ann\"\n[backend]\nkind=\"grpc\"\n"

def layeredSources : Sources where
  flags := [("config", "users.toml"), ("name", "bea")]
  environment :=
    [("HOME", "/"), ("PBMCP_SERVER__LOG_LEVEL", "warn"), ("PBMCP_BACKEND__KIND", "memory")]
  file :=
    [("server", .table [("name", .string "ann")]), ("backend", .table [("kind", .string "grpc")])]

def layeredHost : Host Unit where
  arguments := ["--config", "users.toml", "--name=bea"]
  environment := layeredSources.environment
  fileContent _ := .ok (Utf8.bytes layeredText)
  ids n := toString n
  remote := .outOfReach "not connected"

theorem brings_layered : layeredHost.Brings layeredSources where
  arguments := by
    have arguments : layeredHost.arguments =
        ["--" ++ "config", "users.toml", "--" ++ "name" ++ "=" ++ "bea"] := by decide +kernel
    rw [arguments]
    exact .apart (by decide +kernel) (.joined .done)
  environment := rfl
  file := by
    have read : Toml.read? layeredText = some [("server", .table [("name", .string "ann")]),
      ("backend", .table [("kind", .string "grpc")])] := by cbv
    have made : SettingLayer.ofText layeredText = .ok layeredSources.file := by
      rw [SettingLayer.ofText, read]
      rfl
    have ending : SettingsFile.hasEnding "users.toml" = true := by decide +kernel
    show (SettingsFile.find _ "users.toml" >>= SettingLayer.ofBytes) = _
    rw [SettingsFile.find]
    show ((if SettingsFile.hasEnding "users.toml" = true then _ else _) >>= _) = _
    rw [if_pos ending]
    show SettingLayer.ofBytes (Utf8.bytes layeredText) = _
    rw [SettingLayer.ofBytes, Utf8.string?_bytes]
    exact made

theorem wellTyped_layered : layeredSources.WellTyped where
  flagsDiffer := by decide
  flagsSuit := List.forall_mem_cons.mpr ⟨.config rfl, List.forall_mem_cons.mpr ⟨.name, nofun⟩⟩
  documented := by
    have other : SettingLayer.variableKey? "HOME" = none := by decide +kernel
    exact ⟨by decide, List.forall_mem_cons.mpr ⟨.inr other,
      List.forall_mem_cons.mpr ⟨.inl ⟨.logLevel, rfl⟩,
        List.forall_mem_cons.mpr ⟨.inl ⟨.backend, rfl⟩, nofun⟩⟩⟩⟩
  assigned := by
    intro key text given
    cases key with
    | logLevel =>
      obtain rfl : "warn" = text := Option.some.inj given
      exact ⟨"warn", rfl⟩
    | backend =>
      obtain rfl : "memory" = text := Option.some.inj given
      exact ⟨BackendKind.memory, rfl⟩
    | _ => cases given
  tables := by
    intro key
    have server : SettingPath.ofKey (SettingLayer.lowerKey "server") = [.entry "server"] := by
      decide +kernel
    have backend : SettingPath.ofKey (SettingLayer.lowerKey "backend") = [.entry "backend"] := by
      decide +kernel
    exact List.forall_mem_cons.mpr ⟨by rw [server]; exact .whole,
      List.forall_mem_cons.mpr ⟨by rw [backend]; exact .whole, nofun⟩⟩
  written := by
    intro key value given
    cases key with
    | name =>
      obtain rfl : .string "ann" = value := Option.some.inj given
      exact ⟨some "ann", rfl⟩
    | backend =>
      obtain rfl : .string "grpc" = value := Option.some.inj given
      exact ⟨BackendKind.grpc, rfl⟩
    | _ => cases given

/-! The same server without the flag for its name. -/

def unnamedSources : Sources := { layeredSources with flags := [("config", "users.toml")] }

def unnamedHost : Host Unit := { layeredHost with arguments := ["--config", "users.toml"] }

theorem brings_unnamed : unnamedHost.Brings unnamedSources where
  arguments := by
    have arguments : unnamedHost.arguments = ["--" ++ "config", "users.toml"] := by decide +kernel
    rw [arguments]
    exact .apart (by decide +kernel) .done
  environment := rfl
  file := brings_layered.file

theorem wellTyped_unnamed : unnamedSources.WellTyped where
  flagsDiffer := by decide
  flagsSuit := List.forall_mem_cons.mpr ⟨.config rfl, nofun⟩
  documented := wellTyped_layered.documented
  assigned := wellTyped_layered.assigned
  tables := wellTyped_layered.tables
  written := wellTyped_layered.written

def layeredSettings : Settings where
  server := ⟨some "bea", "warn"⟩
  definition := ⟨none, .entities⟩
  backend := ⟨.memory, "http://[::1]:50051", 5⟩

theorem settings_layered_flagOverFile :
    layeredHost.Brings layeredSources ∧ layeredSources.WellTyped ∧
    layeredHost.settings = .ok layeredSettings ∧ ∃ unnamed, unnamedHost.settings = .ok unnamed ∧
      ∀ key : SettingKey, key ≠ .name → key.of unnamed = key.of layeredSettings := by
  obtain ⟨settings, loaded, chosen, kept⟩ := settings_layered brings_layered wellTyped_layered
  have same : settings = layeredSettings := by
    obtain ⟨⟨name, level⟩, ⟨path, selection⟩, ⟨kind, endpoint, timeout⟩⟩ := settings
    obtain rfl : some "bea" = name := Option.some.inj (chosen .name)
    obtain rfl : "warn" = level := Option.some.inj (chosen .logLevel)
    obtain rfl : none = path := Option.some.inj (chosen .definition)
    obtain rfl : .entities = selection := Option.some.inj (chosen .selection)
    obtain rfl : .memory = kind := Option.some.inj (chosen .backend)
    obtain rfl : "http://[::1]:50051" = endpoint := Option.some.inj (chosen .endpoint)
    obtain rfl : 5 = timeout := Option.some.inj (chosen .timeout)
    rfl
  rw [same] at loaded kept
  have edit : Sources.Gives .name unnamedSources layeredSources :=
    @Sources.Gives.flag .name [("config", "users.toml")] [] _ _ "name" "bea" rfl
  exact ⟨brings_layered, wellTyped_layered, loaded,
    kept .name unnamedHost unnamedSources (.inr edit) brings_unnamed wellTyped_unnamed⟩

end Host

end ToolGateway
