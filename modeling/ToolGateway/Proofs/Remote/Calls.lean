import ToolGateway.Proofs.Remote.Transparency
import ToolGateway.Proofs.Wire.Messages

/-!
# What a call sends to a remote place

A call of the user service at a remote place sends one message or none. What cannot be made into a
request is refused here, with the failure that the store in memory has for it, and nothing is sent, not
even if the place would be ready. A request waits until the place is ready and then sends one message on
the path of its method, and `PassedOn` says what the caller gets to see of the answer.

The messages sent are seen in `Remote.recorded`, which keeps them (`invoke_recorded`).
`invoke_sends_once` puts it all together, for every remote place: it may answer anything, and in any
state.
-/

namespace ToolGateway

namespace StatusCode

/-- The canonical names of the status codes, by their numbers. -/
def canonicalNames : List String :=
  ["OK", "CANCELLED", "UNKNOWN", "INVALID_ARGUMENT", "DEADLINE_EXCEEDED", "NOT_FOUND",
    "ALREADY_EXISTS", "PERMISSION_DENIED", "RESOURCE_EXHAUSTED", "FAILED_PRECONDITION", "ABORTED",
    "OUT_OF_RANGE", "UNIMPLEMENTED", "INTERNAL", "UNAVAILABLE", "DATA_LOSS", "UNAUTHENTICATED"]

/-- The codes that say nothing about the request: the place is out of reach or broke down. -/
def transportCodes : List StatusCode := [unavailable, deadlineExceeded, unknown, internal, cancelled]

/-- A code has its number and its canonical name at the same place. -/
theorem exists_number (code : StatusCode) :
    ∃ number : Nat, all[number]? = some code ∧ canonicalNames[number]? = some code.label := by
  have listed : ∀ code ∈ all, ∃ number < all.length,
      all[number]? = some code ∧ canonicalNames[number]? = some code.label := by decide
  have every : code ∈ all := by cases code <;> decide
  obtain ⟨number, -, placed, named⟩ := listed code every
  exact ⟨number, placed, named⟩

theorem meansUnavailable_iff {code : StatusCode} :
    code.meansUnavailable = true ↔ code ∈ transportCodes := by
  cases code <;> decide

end StatusCode

open StatusCode (canonicalNames transportCodes)

namespace Remote

variable {σ : Type} {remote : Remote σ}

/-! ## What becomes of an answer -/

/-- How the answer of a remote place is passed on to the caller: a status by its code, with its message
word for word, and a message by the user that it brings. -/
inductive PassedOn : Except RemoteStatus (List UInt8) → Outcome Json → Prop where
  | broken {code : StatusCode} {message : String} (transport : code ∈ transportCodes) :
      PassedOn (.error ⟨code, message⟩) (.failed (.unavailable message))
  | refused {code : StatusCode} {message name : String} {number : Nat}
      (other : code ∉ transportCodes) (numbered : StatusCode.all[number]? = some code)
      (named : canonicalNames[number]? = some name) :
      PassedOn (.error ⟨code, message⟩) (.failed (.domain name message))
  | unreadable {reply : List UInt8} {reason : String} (unread : WireResponse.ofWire? reply = none) :
      PassedOn (.ok reply) (.failed (.unavailable reason))
  | userless {reply : List UInt8} (read : WireResponse.ofWire? reply = some ⟨none⟩) :
      PassedOn (.ok reply) (.failed (.domain "INTERNAL" "Response carried no user"))
  | user {reply : List UInt8} {user : WireUser} {status : String}
      (read : WireResponse.ofWire? reply = some ⟨some user⟩)
      (shown : WireUser.StatusShown user.status status) :
      PassedOn (.ok reply) (.done (.object [("user", .object [("id", .string user.id),
        ("name", .string user.name), ("email", .string user.email),
        ("roles", .array (user.roles.map .string)), ("status", .string status)])]))

/-- The failure for a status. -/
theorem passedOn_status (status : RemoteStatus) :
    PassedOn (.error status) (.failed status.toBackendError) := by
  obtain ⟨code, message⟩ := status
  unfold RemoteStatus.toBackendError
  split
  next unavailable => exact .broken (StatusCode.meansUnavailable_iff.mp unavailable)
  next other =>
    obtain ⟨number, numbered, named⟩ := code.exists_number
    exact .refused (StatusCode.meansUnavailable_iff.not.mp other) numbered named

/-- The outcome of a request that got an answer. -/
theorem passedOn_answer (reply : Except RemoteStatus (List UInt8)) :
    PassedOn reply (.ofExcept (UserStore.shown
      ((reply.bind readReply).mapError RemoteStatus.toBackendError >>= userOf))) := by
  cases reply with
  | error status => exact passedOn_status status
  | ok reply =>
    have answered : (Except.ok reply).bind readReply = readReply reply := rfl
    rw [answered, readReply]
    cases read : WireResponse.ofWire? reply with
    | none => exact .unreadable read
    | some response =>
      obtain ⟨_ | user⟩ := response
      · exact .userless read
      · exact .user read (WireUser.statusShown_ofNumber user.status)

/-! ## One call -/

/-- Keeping the messages makes no difference. -/
theorem perform_recorded (request : UserRequest) (state : σ) (sent : List (String × List UInt8)) :
    remote.perform request state =
      ((remote.recorded.perform request (state, sent)).1,
        (remote.recorded.perform request (state, sent)).2.1) := by
  simp only [perform, recorded]
  split <;> rfl

theorem invoke_recorded (method : String) (arguments : Json.Object) (state : σ)
    (sent : List (String × List UInt8)) :
    remote.userBackend.invoke method arguments state =
      ((remote.recorded.userBackend.invoke method arguments (state, sent)).1,
        (remote.recorded.userBackend.invoke method arguments (state, sent)).2.1) := by
  simp only [userBackend, invokeUsers]
  cases UserRequest.ofCall method arguments with
  | error error => rfl
  | ok request =>
    simp only [perform_recorded request state sent]

theorem invoke_of_refused {method : String} {arguments : Json.Object} {error : BackendError}
    (refused : UserRequest.ofCall method arguments = .error error) (state : σ) :
    remote.userBackend.invoke method arguments state = (.failed error, state) := by
  simp only [userBackend, invokeUsers, refused]
  rfl

theorem invoke_of_asks {call : UserCall} {request : UserRequest} (asks : call.Asks request)
    (state : σ) : remote.userBackend.invoke call.method call.arguments state =
      (.ofExcept (UserStore.shown (remote.perform request state).1),
        (remote.perform request state).2) := by
  simp only [userBackend, invokeUsers, UserRequest.ofCall_eq_ok_iff.mpr asks]
  rfl

/-- A request is sent on the path of its method. -/
theorem userPath_of_asks {call : UserCall} {request : UserRequest} (asks : call.Asks request) :
    userPath request = "/example.v1.UserService/" ++ call.method := by
  cases asks with
  | create called | update called | get called => rw [called]; rfl

/-- A request for which the place does not get ready is not sent. -/
theorem recorded_of_unready {call : UserCall} {request : UserRequest} (asks : call.Asks request)
    {state : σ} {reason : String} (unready : (remote.ready state).1 = .error reason)
    (sent : List (String × List UInt8)) :
    remote.recorded.userBackend.invoke call.method call.arguments (state, sent) =
      (.failed (.unavailable ("Service was not ready: " ++ reason)), (remote.ready state).2, sent) := by
  rw [invoke_of_asks asks]
  simp only [perform, recorded, unready]
  rfl

/-- Any other request is sent once. -/
theorem recorded_of_ready {call : UserCall} {request : UserRequest} (asks : call.Asks request)
    {state : σ} (ready : (remote.ready state).1 = .ok ()) (sent : List (String × List UInt8)) :
    let path := "/example.v1.UserService/" ++ call.method
    let reply := remote.send path request.toWire (remote.ready state).2
    let run := remote.recorded.userBackend.invoke call.method call.arguments (state, sent)
    PassedOn reply.1 run.1 ∧ run.2 = (reply.2, (path, request.toWire) :: sent) := by
  intro path reply run
  have made : run = (.ofExcept (UserStore.shown
      ((reply.1.bind readReply).mapError RemoteStatus.toBackendError >>= userOf)),
      reply.2, (path, request.toWire) :: sent) := by
    show remote.recorded.userBackend.invoke call.method call.arguments (state, sent) = _
    rw [invoke_of_asks asks]
    simp only [perform, recorded, ready, userPath_of_asks asks]
    rfl
  rw [made]
  exact ⟨passedOn_answer reply.1, rfl⟩

/-- **A call sends one message or none.** Whatever a remote place does, a call of a method that the
service does not have fails as unimplemented, and one that makes no request fails just as the store in
memory refuses it; neither of them sends anything. A call that makes a request fails without sending
anything if the place does not get ready. Else it sends one message, on the path of its method, which
is read at the other end as that request, and the answer is passed on. No message may be longer than
its length can say, which no message in the memory of a machine is. -/
theorem invoke_sends_once (remote : Remote σ) (call : UserCall) (state : σ)
    (sent : List (String × List UInt8)) :
    let run := remote.recorded.userBackend.invoke call.method call.arguments (state, sent)
    let served := call.method ∈ ["CreateUser", "UpdateUser", "GetUser"]
    remote.userBackend.invoke call.method call.arguments state = (run.1, run.2.1) ∧
    (¬ served → run = (.failed (.domain "UNIMPLEMENTED"
      ("Method " ++ call.method ++ " is not implemented by UserService")), state, sent)) ∧
    (served → (∀ request, ¬ call.Asks request) → ∃ message,
      run = (.failed (.domain "INVALID_ARGUMENT" message), state, sent) ∧
      ∀ ids store, (UserStore.backend ids).invoke call.method call.arguments store =
        (.failed (.domain "INVALID_ARGUMENT" message), store)) ∧
    ∀ request, call.Asks request →
      (∀ reason, (remote.ready state).1 = .error reason →
        run = (.failed (.unavailable ("Service was not ready: " ++ reason)),
          (remote.ready state).2, sent)) ∧
      ((remote.ready state).1 = .ok () →
        let path := "/example.v1.UserService/" ++ call.method
        let message := request.toWire
        let reply := remote.send path message (remote.ready state).2
        (message.length < wordCount64 → requestAt? path message = some request) ∧
        run.2 = (reply.2, (path, message) :: sent) ∧ PassedOn reply.1 run.1) := by
  intro run served
  refine ⟨invoke_recorded call.method call.arguments state sent, ?unserved, ?misread, ?asked⟩
  case unserved =>
    intro unserved
    simp only [served, List.mem_cons, List.not_mem_nil, or_false, not_or] at unserved
    refine invoke_of_refused ?_ (state, sent)
    rw [UserRequest.ofCall, if_neg unserved.1, if_neg unserved.2.1, if_neg unserved.2.2]
    rfl
  case misread =>
    intro served none
    obtain ⟨request, asks⟩ | ⟨error, refused⟩ := call.asks_or_refused
    · exact absurd asks (none request)
    · obtain ⟨message, rfl⟩ := UserRequest.exists_message_of_ofCall served refused
      refine ⟨message, invoke_of_refused refused (state, sent), fun ids store => ?_⟩
      simp only [UserStore.backend, UserStore.invoke, refused]
      rfl
  case asked =>
    intro request asks
    refine ⟨fun reason unready => recorded_of_unready asks unready sent, ?_⟩
    intro ready path message reply
    obtain ⟨passed, kept⟩ := recorded_of_ready asks ready sent
    refine ⟨fun short => ?_, kept, passed⟩
    have read := requestAt?_toWire request short
    rwa [userPath_of_asks asks] at read

/-- A place that answers every request with the same status. -/
def refusingPlace (status : RemoteStatus) : Remote Unit where
  ready _ := (.ok (), ())
  send _ _ _ := (.error status, ())

/-- An update whose name is empty and whose email is absent is sent as that, and the status with which
it is refused is passed on. -/
theorem invoke_sends_once_update :
    let call : UserCall := ⟨"UpdateUser", [("name", .string ""), ("roles", .strings ["b", "a"])]⟩
    let request : UserRequest := .update ⟨"", some "", none, ["b", "a"]⟩
    let run := (refusingPlace ⟨.alreadyExists, "b"⟩).recorded.userBackend.invoke call.method
      call.arguments ((), [])
    run.2.2 = [("/example.v1.UserService/UpdateUser", request.toWire)] ∧
      requestAt? "/example.v1.UserService/UpdateUser" request.toWire = some request ∧
      PassedOn (.error ⟨.alreadyExists, "b"⟩) run.1 := by
  intro call request run
  have asks : call.Asks request := .update rfl (.inr ⟨rfl, rfl⟩) (.inl rfl) (.inr ⟨rfl, rfl⟩) (.inl rfl)
  obtain ⟨-, -, -, asked⟩ := invoke_sends_once (refusingPlace ⟨.alreadyExists, "b"⟩) call () []
  obtain ⟨read, kept, passed⟩ := (asked request asks).2 rfl
  exact ⟨congrArg Prod.snd kept, read (by decide +kernel), passed⟩

end Remote

end ToolGateway
