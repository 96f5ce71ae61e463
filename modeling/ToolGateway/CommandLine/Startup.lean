import ToolGateway.CommandLine.Options
import ToolGateway.Remote.Endpoint
import ToolGateway.Remote.Users
import ToolGateway.Server.Session
import ToolGateway.Settings.Load
import ToolGateway.Users.Definition
import ToolGateway.Users.Store

/-!
# Starting a server

From the arguments, the environment and the files of its host a server is built, or a reason found
why there is none. The reasons count in this order: the arguments, the settings, the definition, the
endpoint, the catalogs.
-/

namespace ToolGateway

/-- What a program gets from outside. -/
structure Host (σ : Type) where
  arguments : List String
  environment : List (String × String)
  /-- What reading a file comes to. -/
  fileContent : String → Except FileFault (List UInt8)
  /-- The ids of the users that are created, in order. -/
  ids : Nat → String
  /-- The remote place that the endpoint names. -/
  remote : Remote σ

/-- Why no server is started. -/
inductive StartupError where
  | usage
  | settings (error : SettingsError)
  | definition (error : DefinitionError)
  | endpoint (text : String)
  | catalog (error : CatalogError)
deriving DecidableEq, Inhabited

namespace StartupError

/-- The exit status of a program that starts no server. -/
def exitStatus : StartupError → UInt8
  | usage => 2
  | _ => 1

def message : StartupError → String
  | usage => "the arguments are not understood"
  | settings error => error.message
  | definition error => error.message
  | endpoint text => "the endpoint " ++ text ++ " is not a URI"
  | catalog error => error.message

end StartupError

/-- The backend on the first of two states. -/
def Backend.onFirst {σ τ : Type} (backend : Backend σ) : Backend (σ × τ) where
  invoke method request state :=
    let (outcome, first) := backend.invoke method request state.1
    (outcome, first, state.2)
  materialize typeName state :=
    let (outcome, first) := backend.materialize typeName state.1
    (outcome, first, state.2)

def Backend.onSecond {σ τ : Type} (backend : Backend τ) : Backend (σ × τ) where
  invoke method request state :=
    let (outcome, second) := backend.invoke method request state.2
    (outcome, state.1, second)
  materialize typeName state :=
    let (outcome, second) := backend.materialize typeName state.2
    (outcome, state.1, second)

variable {σ : Type}

/-- The backend that settings choose. Only the endpoint of a remote place is checked, and nothing is
sent there. -/
def BackendSettings.backend (settings : BackendSettings) (ids : Nat → String) (remote : Remote σ) :
    Except StartupError (Backend (UserStore × σ)) :=
  match settings.kind with
  | .memory => .ok (UserStore.backend ids).onFirst
  | .grpc =>
    if Endpoint.isValid settings.grpcEndpoint then .ok remote.userBackend.onSecond
    else .error (.endpoint settings.grpcEndpoint)

namespace Host

def settings (host : Host σ) : Except StartupError Settings :=
  match Options.parse host.arguments with
  | none => .error .usage
  | some options =>
    match Settings.load host.fileContent options.config host.environment with
    | .error error => .error (.settings error)
    | .ok settings => .ok (options.applyTo settings)

def definition (host : Host σ) (settings : DefinitionSettings) :
    Except StartupError ServiceDefinition :=
  (match settings.path with
  | some path => ServiceDefinition.load path (host.fileContent path)
  | none => userDefinition).mapError .definition

/-- The server that a host starts. -/
def server (host : Host σ) : Except StartupError (Server (UserStore × σ)) := do
  let settings ← host.settings
  let definition ← host.definition settings.definition
  let backend ← settings.backend.backend host.ids host.remote
  let gateway ← (Gateway.ofDefinition definition settings.definition.resourceSelection).mapError
    .catalog
  return ⟨settings.server.name, gateway, backend⟩

def start (remote : σ) : ServerState (UserStore × σ) := ⟨none, .empty, remote⟩

end Host

end ToolGateway
