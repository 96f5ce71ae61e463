import ToolGateway.Proofs.Gateway.Outcome
import ToolGateway.Proofs.Json.RoundTrip
import ToolGateway.Proofs.Server.Contract

/-!
# The text of a tool call's result

The result of a tool call is one block of text, whether the call succeeds or fails. The text is JSON
either way: the payload in its pretty form, or an object that tells of the failure in its compact
form. A client that parses it gets back what was put in, `callTool_text` says: the payload with its
members in their order, if it holds no floating-point number and keeps the limits of JSON texts, and
else the kind and the message of the failure, which for a failure of the backend are the backend's own.
-/

namespace ToolGateway

/-- The object that tells a client of a failure, and of the field at fault if one is. -/
def failureObject (kind message : String) (field : Option String) : Json :=
  .object [("error", .object ([("kind", .string kind), ("message", .string message)] ++
    (field.map fun name => ("field", Json.string name)).toList))]

theorem GatewayError.envelope_eq (error : GatewayError) :
    error.envelope = failureObject error.kind error.message error.field? := by
  unfold envelope failureObject
  cases error.field? <;> rfl

theorem GatewayError.field?_eq_some_iff {error : GatewayError} {name : String} :
    error.field? = some name ↔
      ∃ tool message, error = .invalidArguments tool (some name) message := by
  cases error <;> simp [field?]

theorem exact_failureObject (kind message : String) (field : Option String) :
    (failureObject kind message field).Exact 2 := by
  cases field <;> simp [failureObject, Members.names]

/-- The text that shows what became of a dispatched call. -/
def shownText : Except GatewayError Json → String
  | .ok payload => payloadText payload
  | .error error => error.envelope.compact

theorem parse_shownText_error (error : GatewayError) :
    Json.parse (Utf8.bytes (shownText (.error error))) =
      .ok (failureObject error.kind error.message error.field?) := by
  have exact := (exact_failureObject error.kind error.message error.field?).mono
    (by decide : 2 ≤ Json.depthLimit)
  rw [shownText, error.envelope_eq]
  exact Json.parse_compact exact

namespace Server

variable {σ : Type} {server : Server σ} {request : Request}

theorem callTool_eq (invocation : Invocation) (state : σ) :
    server.callTool invocation state =
      let run := server.gateway.tools.dispatch server.backend invocation state
      (⟨[.text (shownText run.1)], !run.1.isOk⟩, run.2) := by
  unfold callTool
  rcases server.gateway.tools.dispatch server.backend invocation state with ⟨_ | _, _⟩
  · rfl
  · rfl

/-- The reply to a tool call is a result with one text. -/
theorem handle_callTool {id : Json} {tool : String} (calls : request.method = "tools/call")
    (identified : request.id = some id) (named : request.GivesText "name" tool)
    (state : ServerState σ) :
    let run := server.gateway.tools.dispatch server.backend
      ⟨tool, (request.param? "arguments").getD .null⟩ state.backend
    server.handle request state =
      (some (.success (some id) (.object [
        ("content", .array [.object [("type", .string "text"), ("text", .string (shownText run.1))]]),
        ("isError", .boolean !run.1.isOk)])), { state with backend := run.2 }) := by
  intro run
  have addressed : request.isNotification = false := by simp [Request.isNotification, identified]
  have asked := ofName?_eq_callTool_iff.mpr calls
  have given := Request.stringParam?_eq_some_iff.mpr named
  have answered : server.answerToolCall request state =
      (.ok (CallResult.toJson ⟨[.text (shownText run.1)], !run.1.isOk⟩),
        { state with backend := run.2 }) := by
    simp only [answerToolCall, given, callTool_eq]
    rfl
  simp only [handle, addressed, answer, asked, answered, identified]
  rfl

/-- **The text of a tool call's result is faithful.** A tool call with an id and the name of a tool is
answered by one text, marked as an error exactly if the call failed. If it succeeded, the text is
read as the payload, provided the payload keeps the limits of JSON texts and holds no floating-point
number. If it failed, the text is read as an object with the kind and the message of the failure, and
with the field at fault exactly if the arguments were refused for one. What the backend says of a
failure stands there word for word. -/
theorem callTool_text {id : Json} {tool : String} (calls : request.method = "tools/call")
    (identified : request.id = some id) (named : request.GivesText "name" tool)
    (state : ServerState σ) :
    let run := server.gateway.tools.dispatch server.backend
      ⟨tool, (request.param? "arguments").getD .null⟩ state.backend
    ∃ text failed,
      server.handle request state =
        (some (.success (some id) (.object [
          ("content", .array [.object [("type", .string "text"), ("text", .string text)]]),
          ("isError", .boolean failed)])), { state with backend := run.2 }) ∧
      (failed = true ↔ ∃ error, run.1 = .error error) ∧
      (∀ payload, run.1 = .ok payload → payload.Fits 127 → ¬ payload.HasFloat →
        Json.parse (Utf8.bytes text) = .ok payload) ∧
      (∀ error, run.1 = .error error → ∃ field,
        Json.parse (Utf8.bytes text) = .ok (failureObject error.kind error.message field) ∧
          ∀ name, field = some name ↔
            ∃ tool message, error = .invalidArguments tool (some name) message) ∧
      ∀ listed members, server.gateway.tools.find? tool = some listed →
        listed.Takes ((request.param? "arguments").getD .null) members →
          let outcome :=
            (server.backend.invoke listed.name (listed.marshal members) state.backend).1
          (∀ kind message, outcome = .failed (.domain kind message) →
            Json.parse (Utf8.bytes text) = .ok (failureObject kind message none)) ∧
          ∀ message, outcome = .failed (.unavailable message) →
            Json.parse (Utf8.bytes text) =
              .ok (failureObject "BACKEND_UNAVAILABLE" message none) := by
  intro run
  refine ⟨shownText run.1, !run.1.isOk, handle_callTool calls identified named state, ?_, ?_, ?_, ?_⟩
  · cases run.1 <;> simp [Except.isOk, Except.toBool]
  · intro payload succeeded fits plain
    rw [succeeded]
    exact Json.parse_pretty ⟨fits, plain⟩
  · intro error failed
    rw [failed]
    exact ⟨_, parse_shownText_error error, fun name => GatewayError.field?_eq_some_iff⟩
  · intro listed members found taken outcome
    have passed : run = _ := ToolCatalog.dispatch_of_takes ⟨tool, _⟩ found taken server.backend
      state.backend
    constructor
    · intro kind message refused
      have failed : run.1 = .error (.backendDomain kind message) := by
        rw [passed]
        show GatewayError.ofOutcome _ outcome = _
        rw [refused]
        rfl
      rw [failed]
      exact parse_shownText_error _
    · intro message unreachable
      have failed : run.1 = .error (.backendUnavailable message) := by
        rw [passed]
        show GatewayError.ofOutcome _ outcome = _
        rw [unreachable]
        rfl
      rw [failed]
      exact parse_shownText_error _

/-- A backend that answers each call with its request. -/
def echoBackend : Backend Unit :=
  ⟨fun _ request state => (.done (.object request), state), fun _ state => (.aborted, state)⟩

/-- A call of the tool `Grant`, with a quote and a line feed in its arguments. -/
def echoRequest : Request where
  version := rpcVersion
  id := some (.integer 1)
  method := "tools/call"
  params := some (.object [("name", .string "Grant"), ("arguments", .object
    [("note", .array [.null, .array []]), ("roles", .array [.string "a\"b"]),
      ("id", .string "\n")])])

/-- The payload of its result: the fields of the tool come first. -/
def echoed : Json :=
  .object [("id", .string "\n"), ("roles", .array [.string "a\"b"]),
    ("note", .array [.null, .array []])]

/-- A client reads from the text what the backend answered. -/
theorem callTool_text_echo : ∃ gateway,
    Gateway.ofDefinition grantService .entities = .ok gateway ∧
      ∃ text, Json.parse (Utf8.bytes text) = .ok echoed ∧
        (handle ⟨none, gateway, echoBackend⟩ echoRequest ⟨none, ()⟩).1 =
          some (.success (some (.integer 1)) (.object [
            ("content", .array [.object [("type", .string "text"), ("text", .string text)]]),
            ("isError", .boolean false)])) := by
  obtain ⟨gateway, built, offered⟩ : ∃ gateway,
      Gateway.ofDefinition grantService .entities = .ok gateway ∧
        gateway.tools = ⟨"Grants", [Tool.ofMethod "Grants" grantMethod]⟩ := ⟨_, rfl, rfl⟩
  refine ⟨gateway, built, ?_⟩
  obtain ⟨text, failed, replied, failure, parsed, -⟩ := @callTool_text _
    ⟨none, gateway, echoBackend⟩ echoRequest (.integer 1) "Grant" rfl rfl ⟨_, rfl, rfl⟩ ⟨none, ()⟩
  have done : (gateway.tools.dispatch echoBackend
      ⟨"Grant", (echoRequest.param? "arguments").getD .null⟩ ()).1 = .ok echoed := by
    rw [offered]
    rfl
  have exact : echoed.Exact 3 := by simp [echoed, Members.names]
  have succeeded : failed = false := by
    cases failed with
    | false => rfl
    | true =>
      obtain ⟨error, other⟩ := failure.mp rfl
      cases done.symm.trans other
  subst succeeded
  exact ⟨text, parsed echoed done (exact.fits.mono (by decide)) exact.plain,
    congrArg Prod.fst replied⟩

end Server

end ToolGateway
