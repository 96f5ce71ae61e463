import ToolGateway.Backend
import ToolGateway.Json.Printer

/-!
# Failures of tool calls and resource reads

Each failure has a stable kind and a message. Refusals by the backend keep the backend's own kind and
message.
-/

namespace ToolGateway

/-- Why a tool call or a resource read failed. -/
inductive GatewayError where
  | unknownTool (name : String)
  | invalidArguments (tool : String) (field : Option String) (message : String)
  | unknownResourceType (name : String)
  | backendDomain (kind message : String)
  | backendUnavailable (message : String)
deriving DecidableEq, Inhabited

namespace GatewayError

def ofBackend : BackendError → GatewayError
  | .domain kind message => backendDomain kind message
  | .unavailable message => backendUnavailable message

def kind : GatewayError → String
  | unknownTool _ => "UNKNOWN_TOOL"
  | invalidArguments .. => "INVALID_ARGUMENTS"
  | unknownResourceType _ => "UNKNOWN_RESOURCE_TYPE"
  | backendDomain kind _ => kind
  | backendUnavailable _ => "BACKEND_UNAVAILABLE"

def display : GatewayError → String
  | unknownTool name => "Unknown tool: " ++ name
  | invalidArguments tool _ message => "Invalid arguments for " ++ tool ++ ": " ++ message
  | unknownResourceType name => "Unknown resource type: " ++ name
  | backendDomain kind message => kind ++ ": " ++ message
  | backendUnavailable message => "Backend unavailable: " ++ message

/-- The message without what the kind already says. -/
def message : GatewayError → String
  | backendDomain _ message => message
  | invalidArguments _ _ message => message
  | backendUnavailable message => message
  | unknownTool name => (unknownTool name).display
  | unknownResourceType name => (unknownResourceType name).display

/-- The field at fault, if one is. -/
def field? : GatewayError → Option String
  | invalidArguments _ field _ => field
  | _ => none

def envelope (error : GatewayError) : Json :=
  let field := match error.field? with
    | some name => [("field", Json.string name)]
    | none => []
  .object [("error", .object
    ([("kind", .string error.kind), ("message", .string error.message)] ++ field))]

end GatewayError

end ToolGateway
