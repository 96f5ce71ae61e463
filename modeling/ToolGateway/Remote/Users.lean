import ToolGateway.Remote.Status
import ToolGateway.Wire.Users

/-!
# The user service at a remote place

A remote place takes messages on paths, once it is ready, and answers each with a message or a
status. `Remote.userBackend` carries out the methods of the user service there: a call that cannot be
made into a request is refused here, and every other one is sent as one message.
-/

namespace ToolGateway

/-- A remote place with states `σ`. -/
structure Remote (σ : Type) where
  /-- Makes the place ready; the reason if it is not. -/
  ready : σ → Except String Unit × σ
  /-- Sends a message on a path and waits for the answer. -/
  send : String → List UInt8 → σ → Except RemoteStatus (List UInt8) × σ

namespace Remote

variable {σ : Type}

/-- A place that keeps the messages sent to it with their paths, the last one first. -/
def recorded (remote : Remote σ) : Remote (σ × List (String × List UInt8)) where
  ready state :=
    let (result, inner) := remote.ready state.1
    (result, inner, state.2)
  send path message state :=
    let (reply, inner) := remote.send path message state.1
    (reply, inner, (path, message) :: state.2)

/-- A place that is ready but to which nothing gets through, for a given reason. -/
def outOfReach (reason : String) : Remote Unit where
  ready _ := (.ok (), ())
  send _ _ _ := (.error ⟨.unavailable, reason⟩, ())

def userPath (request : UserRequest) : String := "/example.v1.UserService/" ++ request.method

def readReply (reply : List UInt8) : Except RemoteStatus WireResponse :=
  match WireResponse.ofWire? reply with
  | some response => .ok response
  | none => .error ⟨.internal, "failed to decode the response"⟩

def userOf (response : WireResponse) : Except BackendError User :=
  match response.user with
  | some user => .ok user.toUser
  | none => .error (.domain "INTERNAL" "Response carried no user")

/-- Sends a request and reads the user in the answer. -/
def perform (remote : Remote σ) (request : UserRequest) (state : σ) :
    Except BackendError User × σ :=
  let (ready, state) := remote.ready state
  match ready with
  | .error reason => (.error (.unavailable ("Service was not ready: " ++ reason)), state)
  | .ok () =>
    let (reply, state) := remote.send (userPath request) request.toWire state
    ((reply.bind readReply).mapError RemoteStatus.toBackendError >>= userOf, state)

def invokeUsers (remote : Remote σ) (method : String) (arguments : Json.Object) (state : σ) :
    Except BackendError Json × σ :=
  match UserRequest.ofCall method arguments with
  | .error error => (.error error, state)
  | .ok request =>
    let (result, state) := remote.perform request state
    (result.map fun user => (UserResponse.mk user).toJson, state)

/-- What stands for the representation of a resource type: the service cannot list its users. -/
def placeholder (typeName : String) : Json :=
  .object [("type", .string typeName), ("status", .string "not_implemented")]

def userBackend (remote : Remote σ) : Backend σ where
  invoke method arguments state :=
    let (result, state) := remote.invokeUsers method arguments state
    (.ofExcept result, state)
  materialize typeName state := (.done (placeholder typeName).compact, state)

end Remote

end ToolGateway
