import ToolGateway.Settings.Basic
import ToolGateway.Settings.File
import ToolGateway.Settings.Layer
import ToolGateway.Settings.Value
import ToolGateway.Text.Utf8
import ToolGateway.Toml.Reader

/-!
# Loading settings

Settings come from a file, if one is named, and from the environment, which is laid over the file.
A variable of the environment counts if its name starts with the mark of this program; two
underscores in the rest of its name lead from a table to an entry.
-/

namespace ToolGateway

namespace SettingLayer

/-- What the names of this program's variables start with, without case. -/
def variableMark : List Char := "pbmcp_".toList

/-- A point for every two underscores. -/
def pointed : List Char → List Char
  | '_' :: '_' :: rest => '.' :: pointed rest
  | c :: rest => c :: pointed rest
  | [] => []

/-- The key that a variable sets, if it sets one. -/
def variableKey? (name : String) : Option String :=
  let name := (lowerKey name).toList
  if variableMark.isPrefixOf name then
    some (String.ofList (pointed (name.drop variableMark.length)))
  else none

def ofEnvironment (environment : List (String × String)) : SettingLayer :=
  environment.filterMap fun (name, text) =>
    (variableKey? name).map fun key => (key, SettingValue.guess text)

def ofText (text : String) : Except SettingsError SettingLayer :=
  match (Toml.read? text).bind fun document => SettingValue.ofToml? (.table document) with
  | some (.table layer) => .ok layer
  | _ => .error .malformed

def ofBytes (content : List UInt8) : Except SettingsError SettingLayer :=
  match Utf8.string? content with
  | some text => ofText text
  | none => .error (.unreadable .notText)

end SettingLayer

section

open SettingValue

def ServerSettings.ofValue? (value : SettingValue) : Option ServerSettings := do
  let fields ← value.asFields? ["name", "log_level"]
  let name ← fieldOr fields "name" (asOptional? asText?) none
  let logLevel ← fieldOr fields "log_level" asText? standard.logLevel
  return ⟨name, logLevel⟩

def DefinitionSettings.ofValue? (value : SettingValue) : Option DefinitionSettings := do
  let fields ← value.asFields? ["path", "resource_selection"]
  let path ← fieldOr fields "path" (asOptional? asText?) none
  let selection ← fieldOr fields "resource_selection" (asChoice? ResourceSelection.byName)
    standard.resourceSelection
  return ⟨path, selection⟩

def BackendSettings.ofValue? (value : SettingValue) : Option BackendSettings := do
  let fields ← value.asFields? ["kind", "grpc_endpoint", "connect_timeout_secs"]
  let kind ← fieldOr fields "kind" (asChoice? BackendKind.byName) standard.kind
  let endpoint ← fieldOr fields "grpc_endpoint" asText? standard.grpcEndpoint
  let timeout ← fieldOr fields "connect_timeout_secs" asNatural? standard.connectTimeoutSeconds
  return ⟨kind, endpoint, timeout⟩

/-- The settings that the values of all layers make. -/
def Settings.ofLayer? (layer : SettingLayer) : Option Settings := do
  let server ← fieldOr layer "server" ServerSettings.ofValue? .standard
  let definition ← fieldOr layer "definition" DefinitionSettings.ofValue? .standard
  let backend ← fieldOr layer "backend" BackendSettings.ofValue? .standard
  return ⟨server, definition, backend⟩

end

namespace Settings

/-- The settings that a layer of a file and the environment make. -/
def ofLayers (file : SettingLayer) (environment : List (String × String)) :
    Except SettingsError Settings :=
  match ofLayer? ((SettingLayer.ofEnvironment environment).overlay (file.overlay [])) with
  | some settings => .ok settings
  | none => .error .unsuitable

/-- Loads settings from the file at a path, if one is named, and from the environment, in a host
where `content` tells what reading a file comes to. -/
def load (content : String → Except FileFault (List UInt8)) (file : Option String)
    (environment : List (String × String)) : Except SettingsError Settings := do
  let layer ← match file with
    | some path => SettingLayer.ofBytes (← SettingsFile.find content path)
    | none => pure []
  ofLayers layer environment

end Settings

end ToolGateway
