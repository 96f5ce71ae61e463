import ToolGateway.Proofs.Gateway.Outcome
import ToolGateway.Server.Session

/-!
# Recording what reaches a backend

`Server.recorded` is the server with a backend that keeps the calls that reach it. Keeping them makes
no difference to a session (`serve_recorded`): the replies and the state are the same, so a law about
recorded sessions speaks of the calls as well as of everything else.
-/

namespace ToolGateway

variable {σ : Type}

/-- The server with a backend that keeps the calls that reach it. -/
def Server.recorded (server : Server σ) : Server (σ × List Call) :=
  ⟨server.nameOverride, server.gateway, server.backend.recorded⟩

namespace ServerState

/-- The state with no call kept yet. -/
def uncalled (state : ServerState σ) : ServerState (σ × List Call) :=
  ⟨state.client, (state.backend, [])⟩

/-- The state without the calls kept. -/
def unrecorded (state : ServerState (σ × List Call)) : ServerState σ :=
  ⟨state.client, state.backend.1⟩

@[simp]
theorem unrecorded_uncalled (state : ServerState σ) : state.uncalled.unrecorded = state := rfl

end ServerState

theorem ResourceCatalog.read_recorded (catalog : ResourceCatalog) (backend : Backend σ) (uri : String)
    (state : σ × List Call) :
    catalog.read backend uri state.1 =
      ((catalog.read backend.recorded uri state).1, (catalog.read backend.recorded uri state).2.1) := by
  unfold read
  dsimp only
  split
  · rfl
  · rfl

namespace Server

variable (server : Server σ) (request : Request) (state : ServerState (σ × List Call))

theorem answerToolCall_recorded :
    server.answerToolCall request state.unrecorded =
      ((server.recorded.answerToolCall request state).1,
        (server.recorded.answerToolCall request state).2.unrecorded) := by
  unfold answerToolCall
  cases request.stringParam? "name" with
  | none => rfl
  | some tool =>
    simp only [callTool, recorded, ServerState.unrecorded,
      ToolCatalog.dispatch_recorded _ server.backend state.backend.1 state.backend.2]
    cases (server.gateway.tools.dispatch server.backend.recorded
      ⟨tool, (request.param? "arguments").getD .null⟩ state.backend).1 <;> rfl

theorem answerResourceRead_recorded :
    server.answerResourceRead request state.unrecorded =
      ((server.recorded.answerResourceRead request state).1,
        (server.recorded.answerResourceRead request state).2.unrecorded) := by
  unfold answerResourceRead
  cases request.stringParam? "uri" with
  | none => rfl
  | some uri =>
    have same := server.gateway.resources.read_recorded server.backend uri state.backend
    simp only [recorded, ServerState.unrecorded, same]
    cases (server.gateway.resources.read server.backend.recorded uri state.backend).1 <;> rfl

theorem handle_recorded :
    server.handle request state.unrecorded =
      ((server.recorded.handle request state).1,
        (server.recorded.handle request state).2.unrecorded) := by
  have answered : server.answer request state.unrecorded =
      ((server.recorded.answer request state).1,
        (server.recorded.answer request state).2.unrecorded) := by
    unfold answer
    cases Verb.ofName? request.method with
    | none => rfl
    | some verb =>
      cases verb with
      | callTool => exact server.answerToolCall_recorded request state
      | readResource => exact server.answerResourceRead_recorded request state
      | _ => rfl
  unfold handle
  rw [answered]
  split
  · rfl
  · rcases server.recorded.answer request state with ⟨error | result, next⟩
    · rfl
    · rfl

end Server

namespace Session

theorem respond_recorded (server : Server σ) (line : List UInt8)
    (state : ServerState (σ × List Call)) :
    respond server line state.unrecorded =
      ((respond server.recorded line state).1, (respond server.recorded line state).2.unrecorded) := by
  simp only [respond]
  split
  · rfl
  · cases Request.ofBytes (trim line) with
    | error rejection => rfl
    | ok request => exact server.handle_recorded request state

end Session

end ToolGateway
