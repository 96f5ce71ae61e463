import ToolGateway.Proofs.Users.Runs
import ToolGateway.Proofs.Wire.Users
import ToolGateway.Remote.Users

/-!
# A remote user service is transparent

A remote place `ServesUsers` when it reads each message as the request it is, does with it what the
store in memory does, and answers with the user or with the refusal. Nothing else is known of it: how
it keeps its users is its own affair. `userBackend_transparent` says that calls made there have the
same outcomes as calls of the store in memory, one after the other.

The proof follows the store: the users at the remote place and those in memory are the same before
and after every call. Between two calls a request goes out and an answer comes back, each of them in
binary form, and both are read back as they were written.
-/

namespace ToolGateway

/-- Makes calls of a backend, one after the other. -/
def Backend.run {σ : Type} (backend : Backend σ) : List UserCall → σ → List (Outcome Json) × σ
  | [], state => ([], state)
  | call :: calls, state =>
    let (outcome, state) := backend.invoke call.method call.arguments state
    let (outcomes, state) := backend.run calls state
    (outcome :: outcomes, state)

namespace Remote

variable {σ : Type}

/-! ## The service -/

/-- The request that a message on a path is. -/
def requestAt? (path : String) (message : List UInt8) : Option UserRequest :=
  if path = "/example.v1.UserService/CreateUser" then
    (CreateUserRequest.ofWire? message).map .create
  else if path = "/example.v1.UserService/UpdateUser" then
    (UpdateUserRequest.ofWire? message).map .update
  else if path = "/example.v1.UserService/GetUser" then
    (GetUserRequest.ofWire? message).map .get
  else none

/-- The message that brings a user. -/
def userMessage (user : User) : List UInt8 := WireResponse.toWire ⟨some (.ofUser user)⟩

/-- The answer of the service: a message with the user, or a status with the refusal. -/
def answerOf : Except BackendError User → Except RemoteStatus (List UInt8)
  | .ok user => .ok (userMessage user)
  | .error error => .error ⟨.notFound, error.message⟩

/-- A place that is always ready, and that carries requests out like the store in memory. -/
structure ServesUsers (remote : Remote σ) (ids : Nat → String) (store : σ → UserStore) : Prop where
  ready : ∀ state, (remote.ready state).1 = .ok () ∧ store (remote.ready state).2 = store state
  answers : ∀ path message request state, requestAt? path message = some request →
    (remote.send path message state).1 =
        answerOf ((store state).perform (ids (store state).size) request).1 ∧
      store (remote.send path message state).2 =
        ((store state).perform (ids (store state).size) request).2

/-! ## One request -/

/-- The messages that go out and come back for a request. -/
def messagesOf (request : UserRequest) (result : Except BackendError User) : List (List UInt8) :=
  request.toWire :: (result.toOption.map userMessage).toList

/-- A request is read back at the place to which it is sent. -/
theorem requestAt?_toWire (request : UserRequest) (short : request.toWire.length < wordCount64) :
    requestAt? (userPath request) request.toWire = some request := by
  cases request with
  | create request =>
    have path : userPath (.create request) = "/example.v1.UserService/CreateUser" := rfl
    simp [requestAt?, path, UserRequest.toWire, request.ofWire?_toWire short]
  | update request =>
    have path : userPath (.update request) = "/example.v1.UserService/UpdateUser" := rfl
    simp [requestAt?, path, UserRequest.toWire, request.ofWire?_toWire short]
  | get request =>
    have path : userPath (.get request) = "/example.v1.UserService/GetUser" := rfl
    simp [requestAt?, path, UserRequest.toWire, request.ofWire?_toWire short]

theorem toUser_ofUser (user : User) : (WireUser.ofUser user).toUser = user := by
  have status : UserStatus.ofNumber user.status.number = user.status := by
    cases user.status <;> rfl
  simp [WireUser.ofUser, WireUser.toUser, status]

/-- The answer of the service is understood as the result it stands for. -/
theorem userOf_answerOf {result : Except BackendError User}
    (refusals : ∀ error, result = .error error → error = .notFound error.message)
    (short : ∀ user, result = .ok user → (userMessage user).length < wordCount64) :
    ((answerOf result).bind readReply).mapError RemoteStatus.toBackendError >>= userOf = result := by
  cases result with
  | error error =>
    rw [refusals error rfl]
    rfl
  | ok user =>
    have read := WireResponse.ofWire?_toWire _ (short user rfl)
    simp [answerOf, userMessage, Except.bind, readReply, read, Except.mapError, userOf, bind,
      toUser_ofUser]

section

variable {remote : Remote σ} {ids : Nat → String} {store : σ → UserStore}

theorem perform_transparent (serves : remote.ServesUsers ids store) (request : UserRequest)
    (state : σ)
    (short : ∀ message ∈ messagesOf request ((store state).perform (ids (store state).size) request).1,
      message.length < wordCount64) :
    (remote.perform request state).1 =
        ((store state).perform (ids (store state).size) request).1 ∧
      store (remote.perform request state).2 =
        ((store state).perform (ids (store state).size) request).2 := by
  obtain ⟨sent, received⟩ := List.forall_mem_cons.mp short
  obtain ⟨ready, waited⟩ := serves.ready state
  obtain ⟨reply, kept⟩ := serves.answers _ _ request (remote.ready state).2
    (requestAt?_toWire request sent)
  rw [waited] at reply kept
  simp only [perform, ready, reply]
  refine ⟨userOf_answerOf (fun error => UserStore.eq_notFound_of_perform) ?_, kept⟩
  intro user done
  rw [done] at received
  exact received _ (List.mem_singleton_self _)

/-! ## Calls -/

/-- The messages that go out and come back for a call. -/
def exchanged (ids : Nat → String) (call : UserCall) (store : UserStore) : List (List UInt8) :=
  match UserRequest.ofCall call.method call.arguments with
  | .error _ => []
  | .ok request => messagesOf request (store.perform (ids store.size) request).1

/-- The messages that go out and come back for calls, one after the other. -/
def exchangedAll (ids : Nat → String) : List UserCall → UserStore → List (List UInt8)
  | [], _ => []
  | call :: calls, store =>
    exchanged ids call store ++ exchangedAll ids calls (UserStore.answer ids call store).2

theorem invoke_transparent (serves : remote.ServesUsers ids store) (call : UserCall) (state : σ)
    (short : ∀ message ∈ exchanged ids call (store state), message.length < wordCount64) :
    (remote.invokeUsers call.method call.arguments state).1 =
        (UserStore.answer ids call (store state)).1 ∧
      store (remote.invokeUsers call.method call.arguments state).2 =
        (UserStore.answer ids call (store state)).2 := by
  unfold invokeUsers UserStore.answer UserStore.invoke
  unfold exchanged at short
  cases decoded : UserRequest.ofCall call.method call.arguments with
  | error error => exact ⟨rfl, rfl⟩
  | ok request =>
    rw [decoded] at short
    obtain ⟨result, kept⟩ := perform_transparent serves request state short
    exact ⟨congrArg UserStore.shown result, kept⟩

/-- **A remote user service is transparent.** Calls of the user service at a remote place that
carries requests out like the store in memory, with the same supply of ids, have the same outcomes as
the same calls of the store in memory, whatever methods they name and whatever arguments they bring,
and they leave the same users. No message may be longer than its length can say, which no message in
the memory of a machine is. -/
theorem userBackend_transparent (serves : remote.ServesUsers ids store) (calls : List UserCall)
    (state : σ)
    (short : ∀ message ∈ exchangedAll ids calls (store state), message.length < wordCount64) :
    (remote.userBackend.run calls state).1 =
        ((UserStore.backend ids).run calls (store state)).1 ∧
      store (remote.userBackend.run calls state).2 =
        ((UserStore.backend ids).run calls (store state)).2 := by
  induction calls generalizing state with
  | nil => exact ⟨rfl, rfl⟩
  | cons call calls ih =>
    obtain ⟨here, later⟩ := List.forall_mem_append.mp short
    obtain ⟨result, kept⟩ := invoke_transparent serves call state here
    rw [← kept] at later
    obtain ⟨outcomes, final⟩ := ih _ later
    rw [kept] at outcomes final
    have called : remote.userBackend.invoke call.method call.arguments state =
        (.ofExcept (UserStore.answer ids call (store state)).1,
          (remote.invokeUsers call.method call.arguments state).2) := by
      rw [← result]
      rfl
    simp only [Backend.run, called, outcomes, final]
    exact ⟨rfl, rfl⟩

end

/-- The user service at a place of its own: it keeps its users in a store. -/
def userService (ids : Nat → String) : Remote UserStore where
  ready store := (.ok (), store)
  send path message store :=
    match requestAt? path message with
    | none => (.error ⟨.unimplemented, ""⟩, store)
    | some request =>
      let (result, store) := store.perform (ids store.size) request
      (answerOf result, store)

theorem servesUsers_userService (ids : Nat → String) : (userService ids).ServesUsers ids id where
  ready _ := ⟨rfl, rfl⟩
  answers path message request store known := by
    simp only [userService, known]
    exact ⟨rfl, rfl⟩

/-- Ann is created without a name, an unknown method is called, and Ann is read under a wrong id. -/
def sampleCalls : List UserCall :=
  [⟨"CreateUser", [("email", .string "ann@b.org"), ("roles", .strings ["", "admin"])]⟩,
    ⟨"DeleteUser", []⟩, ⟨"GetUser", [("id", .string "bob")]⟩]

/-- All three calls have the same outcomes at the remote place as in memory. -/
theorem userBackend_transparent_sample :
    ((userService fun _ => "ann").userBackend.run sampleCalls .empty).1 =
      ((UserStore.backend fun _ => "ann").run sampleCalls .empty).1 ∧
    ((userService fun _ => "ann").userBackend.run sampleCalls .empty).2 =
      ⟨[⟨"ann", "", "ann@b.org", ["", "admin"], .active⟩]⟩ := by
  obtain ⟨outcomes, users⟩ := userBackend_transparent (servesUsers_userService fun _ => "ann")
    sampleCalls .empty (by decide +kernel)
  exact ⟨outcomes, users⟩

end Remote

end ToolGateway
