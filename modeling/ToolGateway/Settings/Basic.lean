import ToolGateway.Catalog.Resource

/-!
# Settings

What can be chosen when a server is started, and what holds where nothing is chosen.
-/

namespace ToolGateway

/-- Where the user service is. -/
inductive BackendKind where
  /-- In the memory of the server. -/
  | memory
  /-- At a remote place. -/
  | grpc
deriving DecidableEq, Inhabited

namespace BackendKind

def name : BackendKind → String
  | memory => "memory"
  | grpc => "grpc"

def byName : List (String × BackendKind) := [memory, grpc].map fun kind => (kind.name, kind)

def decode : Decoder Json BackendKind := Decoder.variant byName

end BackendKind

/-- How the server presents itself. -/
structure ServerSettings where
  /-- The name to report instead of the standard one. -/
  name : Option String
  logLevel : String
deriving DecidableEq, Inhabited

/-- What the server serves. -/
structure DefinitionSettings where
  /-- The definition file; without one the user service is served. -/
  path : Option String
  resourceSelection : ResourceSelection
deriving DecidableEq, Inhabited

/-- Who carries out the calls. -/
structure BackendSettings where
  kind : BackendKind
  grpcEndpoint : String
  connectTimeoutSeconds : Nat
deriving DecidableEq, Inhabited

/-- The settings of a server. -/
structure Settings where
  server : ServerSettings
  definition : DefinitionSettings
  backend : BackendSettings
deriving DecidableEq, Inhabited

namespace ServerSettings

/-- The settings that hold where nothing is chosen. -/
def standard : ServerSettings := ⟨none, "info"⟩

end ServerSettings

namespace DefinitionSettings

/-- The settings that hold where nothing is chosen. -/
def standard : DefinitionSettings := ⟨none, .entities⟩

end DefinitionSettings

namespace BackendSettings

/-- The settings that hold where nothing is chosen. -/
def standard : BackendSettings := ⟨.memory, "http://[::1]:50051", 5⟩

end BackendSettings

namespace Settings

/-- The settings that hold where nothing is chosen. -/
def standard : Settings := ⟨.standard, .standard, .standard⟩

end Settings

end ToolGateway
