import ToolGateway.Json.Document

/-!
# Responses

A response carries the id of its request and either a result or an error. The id is always written,
as `null` when it is not known; a result or an error that is absent is left out.
-/

namespace ToolGateway

/-- The error of a response. -/
structure RpcError where
  code : Int
  message : String
  data : Option Json
deriving Inhabited

namespace RpcError

def parseError (message : String) : RpcError := ⟨-32700, message, none⟩

def invalidRequest (message : String) : RpcError := ⟨-32600, message, none⟩

def methodNotFound (method : String) : RpcError := ⟨-32601, "Method not found: " ++ method, none⟩

def invalidParams (message : String) : RpcError := ⟨-32602, message, none⟩

def internalError (message : String) : RpcError := ⟨-32603, message, none⟩

def resourceNotFound (message : String) : RpcError := ⟨-32002, message, none⟩

def withData (error : RpcError) (data : Json) : RpcError := { error with data := some data }

def toJson (error : RpcError) : Json :=
  let data := match error.data with
    | some value => [("data", value)]
    | none => []
  .object ([("code", .integer error.code), ("message", .string error.message)] ++ data)

def decode : Decoder Json RpcError :=
  Decoder.record "JsonRpcError" ["code", "message", "data"] .ignored fun fields =>
    RpcError.mk <$> fields.required "code" Decoder.int32
      <*> fields.required "message" Decoder.string
      <*> fields.nullable "data" Decoder.anything

end RpcError

def rpcVersion : String := "2.0"

/-- The response to a request. -/
structure Response where
  version : String
  id : Option Json
  result : Option Json
  error : Option RpcError
deriving Inhabited

namespace Response

def success (id : Option Json) (result : Json) : Response := ⟨rpcVersion, id, some result, none⟩

def failure (id : Option Json) (error : RpcError) : Response := ⟨rpcVersion, id, none, some error⟩

def isSuccess (response : Response) : Bool := response.error.isNone

def toJson (response : Response) : Json :=
  let result := match response.result with
    | some value => [("result", value)]
    | none => []
  let error := match response.error with
    | some error => [("error", error.toJson)]
    | none => []
  .object ([("jsonrpc", .string response.version), ("id", response.id.getD .null)]
    ++ result ++ error)

def decode : Decoder Json Response :=
  Decoder.record "McpResponse" ["jsonrpc", "id", "result", "error"] .ignored fun fields =>
    Response.mk <$> fields.required "jsonrpc" Decoder.string
      <*> fields.nullable "id" Decoder.anything
      <*> fields.nullable "result" Decoder.anything
      <*> fields.nullable "error" RpcError.decode

end Response

end ToolGateway
