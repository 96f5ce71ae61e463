import ToolGateway.Gateway.Basic
import ToolGateway.Protocol.Request

/-!
# Servers

A server answers requests with the help of a gateway and a backend. It remembers the name of the
client that said hello last; all other state is the backend's. Notifications get no response and
change nothing.
-/

namespace ToolGateway

/-- The revision of the protocol a server speaks. -/
def protocolRevision : String := "2024-11-05"

def serverVersion : String := "0.1.0"

/-- What a request asks of a server. -/
inductive Verb where
  | greet
  | acknowledge
  | ping
  | listTools
  | callTool
  | listResources
  | readResource
deriving DecidableEq, Inhabited

namespace Verb

def byName : List (String × Verb) :=
  [("initialize", greet), ("initialized", acknowledge), ("notifications/initialized", acknowledge),
    ("ping", ping), ("tools/list", listTools), ("tools/call", callTool),
    ("resources/list", listResources), ("resources/read", readResource)]

def ofName? (method : String) : Option Verb := byName.lookup method

end Verb

/-- A server for a gateway and a backend. -/
structure Server (σ : Type) where
  /-- The name to report instead of the standard one. -/
  nameOverride : Option String
  gateway : Gateway
  backend : Backend σ

/-- What a server remembers. -/
structure ServerState (σ : Type) where
  client : Option String
  backend : σ
deriving Inhabited

namespace Server

variable {σ : Type}

def name (server : Server σ) : String :=
  server.nameOverride.getD (server.gateway.package ++ "-server")

def greetingName (request : Request) : String :=
  (((request.param? "clientInfo").bind (·.get? "name")).bind Json.asString?).getD "unknown"

def greeting (server : Server σ) : Json :=
  .object [("protocolVersion", .string protocolRevision),
    ("capabilities", .object [
      ("tools", .object [("listChanged", .boolean false)]),
      ("resources", .object [("subscribe", .boolean false), ("listChanged", .boolean false)])]),
    ("serverInfo", .object [("name", .string server.name), ("version", .string serverVersion)])]

/-- Carries out a tool call and shows its result, whether it succeeds or fails. -/
def callTool (server : Server σ) (invocation : Invocation) (state : σ) : CallResult × σ :=
  let (result, state) := server.gateway.tools.dispatch server.backend invocation state
  match result with
  | .ok payload => (.success (payloadContent payload), state)
  | .error error => (.failure error.envelope.compact, state)

def readFailure (uri : String) (error : GatewayError) : RpcError :=
  let data := Json.object [("uri", .string uri), ("kind", .string error.kind)]
  match error with
  | .unknownResourceType _ => (RpcError.resourceNotFound error.display).withData data
  | _ => (RpcError.internalError error.display).withData data

/-- Answers a tool call, if the parameters name a tool. -/
def answerToolCall (server : Server σ) (request : Request) (state : ServerState σ) :
    Except RpcError Json × ServerState σ :=
  match request.stringParam? "name" with
  | none => (.error (.invalidParams "Missing tool name"), state)
  | some tool =>
    let (result, backend) :=
      server.callTool ⟨tool, (request.param? "arguments").getD .null⟩ state.backend
    (.ok result.toJson, { state with backend })

/-- Answers a resource read, if the parameters have a URI. -/
def answerResourceRead (server : Server σ) (request : Request) (state : ServerState σ) :
    Except RpcError Json × ServerState σ :=
  match request.stringParam? "uri" with
  | none => (.error (.invalidParams "Missing resource uri"), state)
  | some uri =>
    let (result, backend) := server.gateway.resources.read server.backend uri state.backend
    match result with
    | .ok contents => (.ok (.object [("contents", .array [contents.toJson])]), { state with backend })
    | .error error => (.error (readFailure uri error), { state with backend })

/-- The result or error of a request that has an id. -/
def answer (server : Server σ) (request : Request) (state : ServerState σ) :
    Except RpcError Json × ServerState σ :=
  match Verb.ofName? request.method with
  | none => (.error (.methodNotFound request.method), state)
  | some .greet => (.ok server.greeting, { state with client := some (greetingName request) })
  | some .acknowledge | some .ping => (.ok (.object []), state)
  | some .listTools =>
    (.ok (.object [("tools", .array (server.gateway.tools.definitions.map ToolDefinition.toJson))]),
      state)
  | some .callTool => server.answerToolCall request state
  | some .listResources =>
    (.ok (.object [("resources", .array (server.gateway.resourceInfos.map ResourceInfo.toJson))]),
      state)
  | some .readResource => server.answerResourceRead request state

/-- Handles a request. -/
def handle (server : Server σ) (request : Request) (state : ServerState σ) :
    Option Response × ServerState σ :=
  if request.isNotification then (none, state)
  else
    let (result, state) := server.answer request state
    match result with
    | .ok result => (some (.success request.id result), state)
    | .error error => (some (.failure request.id error), state)

end Server

end ToolGateway
