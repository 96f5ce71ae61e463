import ToolGateway.Proofs.Settings.Layer
import ToolGateway.Settings.Load

/-!
# The settings by their keys

A server has seven settings. Each is an entry of one of three tables, has a variable of the environment
of its own, and a value of its own type (`SettingKey`). `ofLayer?_eq_some_iff` says what the values of all
layers make of them, wherever the three tables are tables: each setting is what its entry is read as, and
the standard one if there is no entry.
-/

namespace ToolGateway

/-- A setting. -/
inductive SettingKey where
  | name
  | logLevel
  | definition
  | selection
  | backend
  | endpoint
  | timeout
deriving DecidableEq

namespace SettingKey

def all : List SettingKey := [name, logLevel, definition, selection, backend, endpoint, timeout]

theorem mem_all (key : SettingKey) : key ∈ all := by cases key <;> decide

/-- The table that a setting stands in. -/
def table : SettingKey → String
  | name | logLevel => "server"
  | definition | selection => "definition"
  | backend | endpoint | timeout => "backend"

/-- The name of a setting in its table. -/
def entry : SettingKey → String
  | name => "name"
  | logLevel => "log_level"
  | definition => "path"
  | selection => "resource_selection"
  | backend => "kind"
  | endpoint => "grpc_endpoint"
  | timeout => "connect_timeout_secs"

/-- The variable of the environment that sets a setting. -/
def variableName : SettingKey → String
  | name => "PBMCP_SERVER__NAME"
  | logLevel => "PBMCP_SERVER__LOG_LEVEL"
  | definition => "PBMCP_DEFINITION__PATH"
  | selection => "PBMCP_DEFINITION__RESOURCE_SELECTION"
  | backend => "PBMCP_BACKEND__KIND"
  | endpoint => "PBMCP_BACKEND__GRPC_ENDPOINT"
  | timeout => "PBMCP_BACKEND__CONNECT_TIMEOUT_SECS"

/-- The values of a setting; two of the settings may be left without one. -/
def Value : SettingKey → Type
  | name | definition => Option String
  | logLevel | endpoint => String
  | selection => ResourceSelection
  | backend => BackendKind
  | timeout => Nat

/-- The value where none is chosen. -/
def standard : (key : SettingKey) → key.Value
  | name | definition => (none : Option String)
  | logLevel => "info"
  | selection => ResourceSelection.entities
  | backend => BackendKind.memory
  | endpoint => "http://[::1]:50051"
  | timeout => (5 : Nat)

/-- The value that a setting has. -/
def of : (key : SettingKey) → Settings → key.Value
  | name, settings => settings.server.name
  | logLevel, settings => settings.server.logLevel
  | definition, settings => settings.definition.path
  | selection, settings => settings.definition.resourceSelection
  | backend, settings => settings.backend.kind
  | endpoint, settings => settings.backend.grpcEndpoint
  | timeout, settings => settings.backend.connectTimeoutSeconds

open SettingValue in
/-- What a value is read as by a setting. -/
def read? : (key : SettingKey) → SettingValue → Option key.Value
  | name, value | definition, value => asOptional? asText? value
  | logLevel, value | endpoint, value => asText? value
  | selection, value => asChoice? ResourceSelection.byName value
  | backend, value => asChoice? BackendKind.byName value
  | timeout, value => asNatural? value

theorem eq_of_table_of_entry {key other : SettingKey} (table : key.table = other.table)
    (entry : key.entry = other.entry) : key = other := by
  have different : ∀ key ∈ all, ∀ other ∈ all, key.table = other.table → key.entry = other.entry →
      key = other := by decide
  exact different key key.mem_all other other.mem_all table entry

end SettingKey

namespace SettingKey

/-- What a setting comes to, in a table of these entries: its entry has to be read, and the standard
value holds without one. -/
def settleIn (key : SettingKey) (entries : String → Option SettingValue) : Option key.Value :=
  match entries key.entry with
  | some value => key.read? value
  | none => some key.standard

end SettingKey

/-- What a setting comes to. -/
def SettingLayer.settle? (layer : SettingLayer) (key : SettingKey) : Option key.Value :=
  key.settleIn (layer.held? key.table)

namespace Settings

open SettingValue (fieldOr)

variable {layer : SettingLayer}

/-- A record of settings that is given by a table, or not at all, is read from the entries: if this
holds of a table, and of no table at all, it holds wherever there is a table or nothing. -/
theorem fieldOr_iff_of_tableAt {β : Type} {table : String} {read : SettingValue → Option β}
    {absent result : β} (comesTo : (String → Option SettingValue) → Prop)
    (ofTable : ∀ members, read (.table members) = some result ↔ comesTo (Members.find? members))
    (ofNothing : absent = result ↔ comesTo fun _ => none) (tables : layer.TableAt table) :
    fieldOr layer table read absent = some result ↔ comesTo (layer.held? table) := by
  have placed : ∀ found, Members.find? layer table = found → layer.held? table =
      fun name => found.bind fun value => Members.find? value.members name := by
    rintro found rfl
    rfl
  unfold fieldOr
  cases found : Members.find? layer table with
  | none =>
    rw [placed _ found]
    exact Option.some_inj.trans ofNothing
  | some value =>
    obtain ⟨members, rfl⟩ := tables value found
    rw [placed _ found]
    exact ofTable members

theorem server_iff (tables : layer.TableAt "server") {server : ServerSettings} :
    fieldOr layer "server" ServerSettings.ofValue? .standard = some server ↔
      layer.settle? .name = some server.name ∧ layer.settle? .logLevel = some server.logLevel := by
  refine fieldOr_iff_of_tableAt (fun entries => SettingKey.name.settleIn entries = some server.name ∧
    SettingKey.logLevel.settleIn entries = some server.logLevel) (fun members => ?_) ?_ tables
  · constructor
    · intro made
      obtain ⟨name, named, made⟩ := Option.bind_eq_some_iff.mp made
      obtain ⟨level, levelled, ⟨⟩⟩ := Option.bind_eq_some_iff.mp made
      exact ⟨named, levelled⟩
    · rintro ⟨named, levelled⟩
      exact Option.bind_eq_some_iff.mpr ⟨_, named,
        Option.bind_eq_some_iff.mpr ⟨_, levelled, rfl⟩⟩
  · constructor
    · rintro rfl
      exact ⟨rfl, rfl⟩
    · rintro ⟨named, levelled⟩
      obtain ⟨name, level⟩ := server
      obtain rfl : none = name := Option.some.inj named
      obtain rfl : "info" = level := Option.some.inj levelled
      rfl

theorem definition_iff (tables : layer.TableAt "definition") {definition : DefinitionSettings} :
    fieldOr layer "definition" DefinitionSettings.ofValue? .standard = some definition ↔
      layer.settle? .definition = some definition.path ∧
        layer.settle? .selection = some definition.resourceSelection := by
  refine fieldOr_iff_of_tableAt
    (fun entries => SettingKey.definition.settleIn entries = some definition.path ∧
      SettingKey.selection.settleIn entries = some definition.resourceSelection)
    (fun members => ?_) ?_ tables
  · constructor
    · intro made
      obtain ⟨path, placed, made⟩ := Option.bind_eq_some_iff.mp made
      obtain ⟨selection, selected, ⟨⟩⟩ := Option.bind_eq_some_iff.mp made
      exact ⟨placed, selected⟩
    · rintro ⟨placed, selected⟩
      exact Option.bind_eq_some_iff.mpr ⟨_, placed,
        Option.bind_eq_some_iff.mpr ⟨_, selected, rfl⟩⟩
  · constructor
    · rintro rfl
      exact ⟨rfl, rfl⟩
    · rintro ⟨placed, selected⟩
      obtain ⟨path, selection⟩ := definition
      obtain rfl : none = path := Option.some.inj placed
      obtain rfl : .entities = selection := Option.some.inj selected
      rfl

theorem backend_iff (tables : layer.TableAt "backend") {backend : BackendSettings} :
    fieldOr layer "backend" BackendSettings.ofValue? .standard = some backend ↔
      layer.settle? .backend = some backend.kind ∧
        layer.settle? .endpoint = some backend.grpcEndpoint ∧
          layer.settle? .timeout = some backend.connectTimeoutSeconds := by
  refine fieldOr_iff_of_tableAt
    (fun entries => SettingKey.backend.settleIn entries = some backend.kind ∧
      SettingKey.endpoint.settleIn entries = some backend.grpcEndpoint ∧
        SettingKey.timeout.settleIn entries = some backend.connectTimeoutSeconds)
    (fun members => ?_) ?_ tables
  · constructor
    · intro made
      obtain ⟨kind, chosen, made⟩ := Option.bind_eq_some_iff.mp made
      obtain ⟨endpoint, addressed, made⟩ := Option.bind_eq_some_iff.mp made
      obtain ⟨timeout, limited, ⟨⟩⟩ := Option.bind_eq_some_iff.mp made
      exact ⟨chosen, addressed, limited⟩
    · rintro ⟨chosen, addressed, limited⟩
      exact Option.bind_eq_some_iff.mpr ⟨_, chosen, Option.bind_eq_some_iff.mpr ⟨_, addressed,
        Option.bind_eq_some_iff.mpr ⟨_, limited, rfl⟩⟩⟩
  · constructor
    · rintro rfl
      exact ⟨rfl, rfl, rfl⟩
    · rintro ⟨chosen, addressed, limited⟩
      obtain ⟨kind, endpoint, timeout⟩ := backend
      obtain rfl : .memory = kind := Option.some.inj chosen
      obtain rfl : "http://[::1]:50051" = endpoint := Option.some.inj addressed
      obtain rfl : 5 = timeout := Option.some.inj limited
      rfl

theorem ofLayer?_eq_some_iff_records {settings : Settings} : ofLayer? layer = some settings ↔
    fieldOr layer "server" ServerSettings.ofValue? .standard = some settings.server ∧
    fieldOr layer "definition" DefinitionSettings.ofValue? .standard = some settings.definition ∧
    fieldOr layer "backend" BackendSettings.ofValue? .standard = some settings.backend := by
  constructor
  · intro made
    obtain ⟨server, first, made⟩ := Option.bind_eq_some_iff.mp made
    obtain ⟨definition, second, made⟩ := Option.bind_eq_some_iff.mp made
    obtain ⟨backend, third, ⟨⟩⟩ := Option.bind_eq_some_iff.mp made
    exact ⟨first, second, third⟩
  · rintro ⟨first, second, third⟩
    exact Option.bind_eq_some_iff.mpr ⟨_, first, Option.bind_eq_some_iff.mpr ⟨_, second,
      Option.bind_eq_some_iff.mpr ⟨_, third, rfl⟩⟩⟩

/-- In settings that are made of a layer, each setting in a table is what it comes to. -/
theorem settle?_of_ofLayer? {settings : Settings} (made : ofLayer? layer = some settings)
    {key : SettingKey} (tables : layer.TableAt key.table) :
    layer.settle? key = some (key.of settings) := by
  obtain ⟨server, definition, backend⟩ := ofLayer?_eq_some_iff_records.mp made
  cases key with
  | name => exact ((server_iff tables).mp server).1
  | logLevel => exact ((server_iff tables).mp server).2
  | definition => exact ((definition_iff tables).mp definition).1
  | selection => exact ((definition_iff tables).mp definition).2
  | backend => exact ((backend_iff tables).mp backend).1
  | endpoint => exact ((backend_iff tables).mp backend).2.1
  | timeout => exact ((backend_iff tables).mp backend).2.2

/-- Where settings are made of a layer, each setting comes to something: an entry is only found in a
table, and without one the standard value holds. -/
theorem exists_settle?_of_ofLayer? {settings : Settings} (made : ofLayer? layer = some settings)
    (key : SettingKey) : ∃ value, layer.settle? key = some value := by
  have absent : ∀ found, Members.find? layer key.table = found →
      (found.bind fun value => Members.find? value.members key.entry) = none →
        ∃ value, layer.settle? key = some value := by
    rintro _ rfl none
    exact ⟨key.standard, by rw [SettingLayer.settle?, SettingKey.settleIn, SettingLayer.held?, none]⟩
  cases found : Members.find? layer key.table with
  | none => exact absent _ found rfl
  | some value =>
    cases value with
    | table members =>
      refine ⟨_, settle?_of_ofLayer? made fun value same => ?_⟩
      rw [found] at same
      exact ⟨members, (Option.some.inj same).symm⟩
    | _ => exact absent _ found rfl

theorem fieldOr_congr {β : Type} {other : SettingLayer} {table : String}
    (same : Members.find? layer table = Members.find? other table) (read : SettingValue → Option β)
    (absent : β) : fieldOr layer table read absent = fieldOr other table read absent := by
  rw [fieldOr, same, fieldOr]

/-- Settings are made of a layer if they are made of another that has the same in each of the three
places, or if the layer has a table there, in which each setting comes to something. -/
theorem exists_ofLayer?_of_ofLayer? {other : SettingLayer} {settings : Settings}
    (made : ofLayer? other = some settings)
    (kept : ∀ key : SettingKey, Members.find? layer key.table = Members.find? other key.table ∨
      layer.TableAt key.table)
    (settled : ∀ key, ∃ value, layer.settle? key = some value) :
    ∃ settings, ofLayer? layer = some settings := by
  obtain ⟨first, second, third⟩ := ofLayer?_eq_some_iff_records.mp made
  have server : ∃ server, fieldOr layer "server" ServerSettings.ofValue? .standard = some server := by
    rcases kept .name with same | tables
    · exact ⟨_, (fieldOr_congr same _ _).trans first⟩
    · obtain ⟨name, named⟩ := settled .name
      obtain ⟨level, levelled⟩ := settled .logLevel
      exact ⟨⟨name, level⟩, (server_iff tables).mpr ⟨named, levelled⟩⟩
  have definition : ∃ definition,
      fieldOr layer "definition" DefinitionSettings.ofValue? .standard = some definition := by
    rcases kept .definition with same | tables
    · exact ⟨_, (fieldOr_congr same _ _).trans second⟩
    · obtain ⟨path, placed⟩ := settled .definition
      obtain ⟨selection, selected⟩ := settled .selection
      exact ⟨⟨path, selection⟩, (definition_iff tables).mpr ⟨placed, selected⟩⟩
  have backend : ∃ backend,
      fieldOr layer "backend" BackendSettings.ofValue? .standard = some backend := by
    rcases kept .backend with same | tables
    · exact ⟨_, (fieldOr_congr same _ _).trans third⟩
    · obtain ⟨kind, chosen⟩ := settled .backend
      obtain ⟨endpoint, addressed⟩ := settled .endpoint
      obtain ⟨timeout, limited⟩ := settled .timeout
      exact ⟨⟨kind, endpoint, timeout⟩, (backend_iff tables).mpr ⟨chosen, addressed, limited⟩⟩
  obtain ⟨server, first⟩ := server
  obtain ⟨definition, second⟩ := definition
  obtain ⟨backend, third⟩ := backend
  exact ⟨⟨server, definition, backend⟩, ofLayer?_eq_some_iff_records.mpr ⟨first, second, third⟩⟩

/-- **What the values of all layers make.** Settings are made of tables exactly if each setting comes to
the value that it has in them. -/
theorem ofLayer?_eq_some_iff (tables : ∀ key : SettingKey, layer.TableAt key.table)
    {settings : Settings} : ofLayer? layer = some settings ↔
      ∀ key, layer.settle? key = some (key.of settings) := by
  constructor
  · exact fun made key => settle?_of_ofLayer? made (tables key)
  · intro settled
    exact ofLayer?_eq_some_iff_records.mpr
      ⟨(server_iff (tables .name)).mpr ⟨settled .name, settled .logLevel⟩,
        (definition_iff (tables .definition)).mpr ⟨settled .definition, settled .selection⟩,
        (backend_iff (tables .backend)).mpr
          ⟨settled .backend, settled .endpoint, settled .timeout⟩⟩

end Settings

end ToolGateway
