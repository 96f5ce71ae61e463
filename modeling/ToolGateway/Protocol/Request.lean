import ToolGateway.Json.Reader
import ToolGateway.Protocol.Response

/-!
# Requests

A request names a method and carries parameters. A request without an id is a notification, which
gets no response; an id that is `null` is an id. `Request.ofBytes` reads a request from a line of
text, or gives the response that rejects it.
-/

namespace ToolGateway

/-- A request. -/
structure Request where
  version : String
  /-- Absent only if the member is; `null` is an id. -/
  id : Option Json
  method : String
  params : Option Json
deriving Inhabited

namespace Request

def isNotification (request : Request) : Bool := request.id.isNone

def param? (request : Request) (name : String) : Option Json :=
  request.params.bind (·.get? name)

def stringParam? (request : Request) (name : String) : Option String :=
  (request.param? name).bind Json.asString?

def toJson (request : Request) : Json :=
  let id := match request.id with
    | some value => [("id", value)]
    | none => []
  .object ([("jsonrpc", .string request.version)] ++ id
    ++ [("method", .string request.method), ("params", request.params.getD .null)])

def decode : Decoder Json Request :=
  Decoder.record "McpRequest" ["jsonrpc", "id", "method", "params"] .ignored fun fields =>
    Request.mk <$> fields.required "jsonrpc" Decoder.string
      <*> fields.withDefault "id" (fun value => .ok (some value)) none
      <*> fields.required "method" Decoder.string
      <*> fields.withDefault "params" (Decoder.optional Decoder.anything) none

/-- The request a JSON value stands for, or the response that rejects it. -/
def ofJson (value : Json) : Except Response Request :=
  let id := value.get? "id"
  match decode value with
  | .error error => .error (.failure id (.invalidRequest error.message))
  | .ok request =>
    if request.version = rpcVersion then .ok request
    else
      .error (.failure id
        (.invalidRequest ("Unsupported jsonrpc version: " ++ request.version)))

/-- The request a line of text holds, or the response that rejects it. -/
def ofBytes (text : List UInt8) : Except Response Request :=
  match Json.parse text with
  | .error message => .error (.failure none (.parseError message))
  | .ok value => ofJson value

end Request

end ToolGateway
