import ToolGateway.Proofs.Except
import ToolGateway.Proofs.Json.Parsed
import ToolGateway.Proofs.Protocol.RequestText
import ToolGateway.Proofs.Protocol.ResponseForm
import ToolGateway.Proofs.Schema.Text
import ToolGateway.Proofs.Server.Contract

/-!
# What a server sends

Every response of a session is `Sendable`: its id was read from the line it answers, or is absent,
and all the rest of it the server has built itself. The deepest result is a listing of tools, six
levels down to the properties of a schema. The texts in a response come from clients, from the
service and from its backend, and nothing is assumed of them.
-/

namespace ToolGateway

/-! ## Listings -/

/-- The tools of a gateway to a service have schemas that stay within three levels. -/
theorem Gateway.exact_inputSchema {definition : ServiceDefinition} {selection : ResourceSelection}
    {gateway : Gateway} (built : ofDefinition definition selection = .ok gateway) :
    ∀ tool ∈ gateway.tools.tools, tool.inputSchema.Exact 3 := by
  obtain ⟨tools, listed, built⟩ := bind_eq_ok_iff.mp built
  obtain ⟨resources, -, built⟩ := bind_eq_ok_iff.mp built
  obtain rfl := Except.ok.inj built
  obtain ⟨-, rfl⟩ := ToolCatalog.ofDefinition_eq_ok_iff.mp listed
  intro tool member
  obtain ⟨method, -, rfl⟩ := List.mem_map.mp member
  exact method.exact_inputSchema

theorem ToolDefinition.exact_toJson {tool : ToolDefinition} (schema : tool.inputSchema.Exact 3) :
    tool.toJson.Exact 4 := by
  simp [toJson, Members.names, schema]

theorem ResourceInfo.exact_toJson (info : ResourceInfo) : info.toJson.Exact 1 := by
  simp [toJson, Members.names]

/-! ## Calls and reads -/

theorem Content.exact_toJson (content : Content) : content.toJson.Exact 1 := by
  cases content
  simp [toJson, Members.names]

theorem CallResult.exact_toJson (result : CallResult) : result.toJson.Exact 3 := by
  simp [toJson, Members.names, Content.exact_toJson]

theorem ResourceContents.exact_toJson (contents : ResourceContents) : contents.toJson.Exact 1 := by
  simp [toJson, Members.names]

/-! ## Answers -/

namespace Server

variable {σ : Type} {server : Server σ} {request : Request} {state : ServerState σ}

theorem exact_greeting (server : Server σ) : server.greeting.Exact 3 := by
  simp [greeting, Members.names]

theorem sendable_of_answer {error : RpcError}
    (refused : (server.answer request state).1 = .error error) : error.Sendable := by
  have shown : ∀ code message uri kind, isInt32 code = true →
      RpcError.Sendable ⟨code, message, some (readData uri kind)⟩ := by
    intro code message uri kind small
    refine ⟨small, ?_⟩
    rintro _ ⟨⟩
    simp [readData, Members.names]
  cases answer_eq_error_iff.mp refused with
  | unknownMethod => exact RpcError.sendable_bare rfl _
  | unnamedTool => exact RpcError.sendable_bare rfl _
  | failedRead _ failed =>
    cases failed with
    | unnamed => exact RpcError.sendable_bare rfl _
    | _ => exact shown _ _ _ _ rfl

theorem exact_of_answerToolCall {result : Json}
    (succeeded : (server.answerToolCall request state).1 = .ok result) :
    result ≠ .null ∧ result.Exact 6 := by
  unfold answerToolCall at succeeded
  split at succeeded
  · cases succeeded
  · obtain rfl := Except.ok.inj succeeded
    exact ⟨Json.object_ne_null _, (CallResult.exact_toJson _).mono (by decide)⟩

theorem exact_of_answerResourceRead {result : Json}
    (succeeded : (server.answerResourceRead request state).1 = .ok result) :
    result ≠ .null ∧ result.Exact 6 := by
  unfold answerResourceRead at succeeded
  split at succeeded
  · cases succeeded
  · dsimp only at succeeded
    split at succeeded
    next contents _ =>
      obtain rfl := Except.ok.inj succeeded
      have shown : contents.toJson.Exact 4 := contents.exact_toJson.mono (by decide)
      exact ⟨Json.object_ne_null _, by simp [Members.names, shown]⟩
    next => cases succeeded

/-- A result is an object, at most six levels deep. -/
theorem exact_of_answer (schemas : ∀ tool ∈ server.gateway.tools.tools, tool.inputSchema.Exact 3)
    {result : Json} (succeeded : (server.answer request state).1 = .ok result) :
    result ≠ .null ∧ result.Exact 6 := by
  unfold answer at succeeded
  cases asked : Verb.ofName? request.method with
  | none =>
    rw [asked] at succeeded
    cases succeeded
  | some verb =>
    rw [asked] at succeeded
    cases verb with
    | greet =>
      obtain rfl := Except.ok.inj succeeded
      exact ⟨Json.object_ne_null _, server.exact_greeting.mono (by decide)⟩
    | acknowledge | ping =>
      obtain rfl := Except.ok.inj succeeded
      exact ⟨Json.object_ne_null _, by simp [Members.names]⟩
    | listTools =>
      obtain rfl := Except.ok.inj succeeded
      have shown : ∀ tool ∈ server.gateway.tools.tools, tool.definition.toJson.Exact 4 :=
        fun tool member => ToolDefinition.exact_toJson (schemas tool member)
      exact ⟨Json.object_ne_null _, by simpa [Members.names, ToolCatalog.definitions] using shown⟩
    | callTool => exact exact_of_answerToolCall succeeded
    | listResources =>
      obtain rfl := Except.ok.inj succeeded
      have shown : ∀ info : ResourceInfo, info.toJson.Exact 4 :=
        fun info => info.exact_toJson.mono (by decide)
      exact ⟨Json.object_ne_null _, by simp [Members.names, shown]⟩
    | readResource => exact exact_of_answerResourceRead succeeded

theorem sendable_of_handle (schemas : ∀ tool ∈ server.gateway.tools.tools, tool.inputSchema.Exact 3)
    (read : ∀ value, request.id = some value → value.Fits 126) {response : Response}
    (handled : (server.handle request state).1 = some response) : response.Sendable := by
  have refused := @sendable_of_answer _ server request state
  have succeeded := @exact_of_answer _ server request state schemas
  unfold handle at handled
  split at handled
  · cases handled
  · revert handled refused succeeded
    rcases server.answer request state with ⟨error | result, next⟩ <;>
      rintro refused succeeded ⟨⟩
    · exact Response.sendable_failure read (refused rfl)
    · exact Response.sendable_success read (succeeded rfl).1 (succeeded rfl).2

end Server

/-! ## Requests and their ids -/

namespace Request

/-- The id of a request was read with the text around it. -/
theorem fits_id {text : List UInt8} {request : Request} (accepted : ofBytes text = .ok request)
    {id : Json} (numbered : request.id = some id) : id.Fits 126 := by
  obtain ⟨value, isText, form, -⟩ := ofBytes_eq_ok_iff.mp accepted
  exact form.fits_id (Json.fits_of_parse (Json.parse_eq_ok_iff.mpr isText)) numbered

theorem sendable_of_rejected {text : List UInt8} {rejection : Response}
    (refused : ofBytes text = .error rejection) : rejection.Sendable := by
  rcases eq_failure_of_rejected refused with ⟨message, rfl⟩ | ⟨value, message, isText, rfl⟩
  · exact Response.sendable_failure (by simp) (RpcError.sendable_bare rfl _)
  · refine Response.sendable_failure ?_ (RpcError.sendable_bare rfl _)
    intro id numbered
    have fits := Json.fits_of_parse (Json.parse_eq_ok_iff.mpr isText)
    cases value with
    | object members => exact Json.Fits.entry fits (Members.mem_of_find? numbered)
    | _ => cases numbered

end Request

/-! ## Sessions -/

namespace Session

variable {σ : Type} {server : Server σ}

theorem sendable_of_respond
    (schemas : ∀ tool ∈ server.gateway.tools.tools, tool.inputSchema.Exact 3) {line : List UInt8}
    {state : ServerState σ} {response : Response}
    (replied : (respond server line state).1 = some response) : response.Sendable := by
  unfold respond at replied
  dsimp only at replied
  split at replied
  · cases replied
  · split at replied
    next rejection refused =>
      obtain rfl := Option.some.inj replied
      exact Request.sendable_of_rejected refused
    next request accepted =>
      exact Server.sendable_of_handle schemas (fun id => Request.fits_id accepted) replied

/-- Every response of a session can be sent. -/
theorem respondAll_sendable
    (schemas : ∀ tool ∈ server.gateway.tools.tools, tool.inputSchema.Exact 3)
    {lines : List (List UInt8)} {state : ServerState σ} :
    ∀ response ∈ (respondAll server lines state).1, response.Sendable := by
  induction lines generalizing state with
  | nil => exact List.forall_mem_nil _
  | cons line rest ih =>
    intro response member
    rcases List.mem_append.mp member with first | later
    · exact sendable_of_respond schemas (Option.mem_toList.mp first)
    · exact ih response later

end Session

end ToolGateway
