import ToolGateway.Catalog.Tool
import ToolGateway.Gateway.Error

/-!
# Dispatching tool calls

A call names a tool and carries arguments. The tool is looked up, the arguments are checked against
its fields, and only then the backend is invoked, once, with the declared fields first and all other
arguments after them.
-/

namespace ToolGateway

/-- A call of a tool. -/
structure Invocation where
  name : String
  arguments : Json
deriving Inhabited

namespace Invocation

def toJson (invocation : Invocation) : Json :=
  .object [("name", .string invocation.name), ("arguments", invocation.arguments)]

def decode : Decoder Json Invocation :=
  Decoder.record "InvocationRequest" ["name", "arguments"] .ignored fun fields =>
    Invocation.mk <$> fields.required "name" Decoder.string
      <*> fields.withDefault "arguments" Decoder.anything .null

end Invocation

namespace Tool

/-- The arguments as an object; `null` stands for none. -/
def argumentObject (tool : Tool) : Json → Except GatewayError Json.Object
  | .null => .ok []
  | .object members => .ok members
  | other =>
    .error (.invalidArguments tool.name none
      ("Arguments must be an object, got " ++ other.typeName))

/-- What is wrong with a field in the arguments, if anything is. -/
def fieldFault? (tool : Tool) (arguments : Json.Object) (field : Field) : Option GatewayError :=
  match Members.find? arguments field.name with
  | none =>
    if tool.method.isRequired field.name then
      some (.invalidArguments tool.name (some field.name) ("Missing required field " ++ field.name))
    else none
  | some value =>
    if field.kind.accepts value then none
    else
      some (.invalidArguments tool.name (some field.name)
        ("Field " ++ field.name ++ " must be " ++ field.kind.name ++ ", got " ++ value.typeName))

/-- Checks the fields in the order of their declaration; the first fault decides. -/
def validate (tool : Tool) (arguments : Json.Object) : Except GatewayError Unit :=
  match tool.method.fields.findSome? (tool.fieldFault? arguments) with
  | some error => .error error
  | none => .ok ()

/-- Moves the fields of these names from the arguments to the request, one after the other. -/
def moveFields (names : List String) (request arguments : Json.Object) :
    Json.Object × Json.Object :=
  names.foldl (fun (request, arguments) name =>
    match Members.take? arguments name with
    | some (value, left) => (Members.put request name value, left)
    | none => (request, arguments)) (request, arguments)

/-- The request for the backend: the declared fields first, then the arguments that are left. -/
def marshal (tool : Tool) (arguments : Json.Object) : Json.Object :=
  let (request, left) := moveFields (tool.method.fields.map Field.name) [] arguments
  Members.putAll request left

end Tool

/-- The result of a tool call from the outcome of the backend. -/
def GatewayError.ofOutcome {α : Type} (activity : String) : Outcome α → Except GatewayError α
  | .done result => .ok result
  | .failed error => .error (.ofBackend error)
  | .aborted => .error (.backendUnavailable ("Backend failed unexpectedly while " ++ activity))

/-- Carries out a tool call. -/
def ToolCatalog.dispatch {σ : Type} (catalog : ToolCatalog) (backend : Backend σ)
    (invocation : Invocation) (state : σ) : Except GatewayError Json × σ :=
  match catalog.find? invocation.name with
  | none => (.error (.unknownTool invocation.name), state)
  | some tool =>
    match tool.argumentObject invocation.arguments with
    | .error error => (.error error, state)
    | .ok arguments =>
      match tool.validate arguments with
      | .error error => (.error error, state)
      | .ok () =>
        let (outcome, state) := backend.invoke tool.name (tool.marshal arguments) state
        (GatewayError.ofOutcome ("handling " ++ tool.name) outcome, state)

end ToolGateway
