import Mathlib.Data.List.Induction
import ToolGateway.Proofs.Server.Contract
import ToolGateway.Proofs.Server.Recording
import ToolGateway.Proofs.Session.Replies

/-!
# What requests leave behind

A server remembers the name of its client, and its backend has a state. Over any number of requests
both depend on few of them: the name on those that greet, the backend on those that call a tool or
read a resource. What one request does to either is settled first (`client_handle_eq_iff`,
`exists_calls_of_handle`), and a run follows by induction over its requests. All other answers are
the same whatever came before, which `handleAll_contained` says together with the rest.

Nothing is assumed of the catalogs or of the backend.
-/

namespace ToolGateway

namespace Json

theorem get?_eq_some_iff {value found : Json} {name : String} :
    value.get? name = some found ↔
      ∃ members, value = .object members ∧ Members.find? members name = some found := by
  cases value <;> simp [get?]

theorem asString?_eq_some_iff {value : Json} {text : String} :
    value.asString? = some text ↔ value = .string text := by
  cases value <;> simp [asString?]

end Json

/-! ## Greetings -/

namespace Request

/-- The parameters name the client: they are an object with an object under `clientInfo`, whose
`name` is this text. -/
def Introduces (request : Request) (name : String) : Prop :=
  ∃ members info, request.params = some (.object members) ∧
    Members.find? members "clientInfo" = some (.object info) ∧
    Members.find? info "name" = some (.string name)

/-- A request with an id to initialize, and the name under which its client is known from then on. -/
inductive Greets (request : Request) : String → Prop where
  | named {name : String} (asked : request.method = "initialize") (numbered : request.id ≠ none)
      (introduced : request.Introduces name) : Greets request name
  | unnamed (asked : request.method = "initialize") (numbered : request.id ≠ none)
      (anonymous : ∀ name, ¬ request.Introduces name) : Greets request "unknown"

variable {request : Request}

theorem introduced_iff {name : String} :
    ((request.param? "clientInfo").bind (·.get? "name")).bind Json.asString? = some name ↔
      request.Introduces name := by
  simp only [param?, Option.bind_eq_some_iff, Json.get?_eq_some_iff, Json.asString?_eq_some_iff]
  constructor
  · rintro ⟨_, ⟨_, ⟨_, given, members, rfl, inside⟩, info, rfl, held⟩, rfl⟩
    exact ⟨members, info, given, inside, held⟩
  · rintro ⟨members, info, given, inside, held⟩
    exact ⟨_, ⟨_, ⟨_, given, members, rfl, inside⟩, info, rfl, held⟩, rfl⟩

theorem greets_iff {name : String} :
    request.Greets name ↔ request.method = "initialize" ∧ request.id ≠ none ∧
      Server.greetingName request = name := by
  unfold Server.greetingName
  cases given : ((request.param? "clientInfo").bind (·.get? "name")).bind Json.asString? with
  | some introduced =>
    have known := introduced_iff.mp given
    constructor
    · intro greets
      cases greets with
      | named asked numbered introduces =>
        have := introduced_iff.mpr introduces
        exact ⟨asked, numbered, Option.some.inj (given.symm.trans this)⟩
      | unnamed _ _ anonymous => exact absurd known (anonymous introduced)
    · rintro ⟨asked, numbered, rfl⟩
      exact .named asked numbered known
  | none =>
    have anonymous : ∀ name, ¬ request.Introduces name := by
      intro name introduces
      rw [introduced_iff.mpr introduces] at given
      cases given
    constructor
    · intro greets
      cases greets with
      | named _ _ introduces => exact absurd introduces (anonymous name)
      | unnamed asked numbered _ => exact ⟨asked, numbered, rfl⟩
    · rintro ⟨asked, numbered, rfl⟩
      exact .unnamed asked numbered anonymous

end Request

/-- The name that is reported after requests: none before the first greeting, and then the name that
the last one gives. -/
inductive ReportedClient (requests : List Request) : Option String → Prop where
  | none (ungreeted : ∀ request ∈ requests, ∀ name, ¬ request.Greets name) :
      ReportedClient requests none
  | last {before after : List Request} {greeting : Request} {name : String}
      (split : requests = before ++ greeting :: after) (greets : greeting.Greets name)
      (ungreeted : ∀ request ∈ after, ∀ name, ¬ request.Greets name) :
      ReportedClient requests (some name)

theorem reportedClient_concat_iff {requests : List Request} {request : Request}
    {client : Option String} : ReportedClient (requests ++ [request]) client ↔
      (∃ name, request.Greets name ∧ client = some name) ∨
        ((∀ name, ¬ request.Greets name) ∧ ReportedClient requests client) := by
  constructor
  · intro reported
    cases reported with
    | none ungreeted =>
      rw [List.forall_mem_append] at ungreeted
      exact .inr ⟨ungreeted.2 request (List.mem_singleton_self _), .none ungreeted.1⟩
    | @last before after greeting name split greets ungreeted =>
      rcases List.eq_nil_or_concat' after with rfl | ⟨after, final, rfl⟩
      · obtain ⟨-, rfl⟩ := List.append_inj' split rfl |>.imp_right List.singleton_inj.mp
        exact .inl ⟨name, greets, rfl⟩
      · rw [← List.cons_append, ← List.append_assoc] at split
        obtain ⟨rfl, rfl⟩ := List.append_inj' split rfl |>.imp_right List.singleton_inj.mp
        rw [List.forall_mem_append] at ungreeted
        exact .inr ⟨ungreeted.2 request (List.mem_singleton_self _), .last rfl greets ungreeted.1⟩
  · rintro (⟨name, greets, rfl⟩ | ⟨silent, reported⟩)
    · exact .last rfl greets (by simp)
    · have silence : ∀ other ∈ [request], ∀ name, ¬ other.Greets name := by
        intro other member
        rw [List.mem_singleton.mp member]
        exact silent
      cases reported with
      | none ungreeted => exact .none (List.forall_mem_append.mpr ⟨ungreeted, silence⟩)
      | @last before after greeting name split greets ungreeted =>
        have further : requests ++ [request] = before ++ greeting :: (after ++ [request]) := by
          rw [split, List.append_assoc, List.cons_append]
        exact .last further greets (List.forall_mem_append.mpr ⟨ungreeted, silence⟩)

/-! ## Calls of the backend -/

namespace Backend

variable {σ : Type}

/-- The state that a call leaves. -/
def after (backend : Backend σ) (state : σ) : Call → σ
  | .invoke method request => (backend.invoke method request state).2
  | .materialize typeName => (backend.materialize typeName state).2

theorem foldl_after_recorded (backend : Backend σ) (calls : List Call) (state : σ × List Call) :
    calls.foldl backend.recorded.after state =
      (calls.foldl backend.after state.1, calls.reverse ++ state.2) := by
  induction calls generalizing state with
  | nil => rfl
  | cons call rest ih =>
    have step : backend.recorded.after state call = (backend.after state.1 call, call :: state.2) := by
      cases call <;> rfl
    rw [List.foldl_cons, step, ih, List.foldl_cons, List.reverse_cons, List.append_assoc,
      List.singleton_append]

end Backend

/-- The calls of the backend that a request may cause: none, or a single one for a tool call or a
resource read with an id whose parameters say of what. -/
inductive Request.Causes (request : Request) : List Call → Prop where
  | nothing : Causes request []
  | invocation {name : String} {arguments : Json.Object} (asked : request.method = "tools/call")
      (numbered : request.id ≠ none) (named : request.GivesText "name" name) :
      Causes request [.invoke name arguments]
  | materialization {uri : String} (asked : request.method = "resources/read")
      (numbered : request.id ≠ none) (named : request.GivesText "uri" uri) :
      Causes request [.materialize (ResourceUri.parse uri).typeToken]

section

variable {σ : Type} (backend : Backend σ) (state : σ)

theorem ToolCatalog.dispatch_after (catalog : ToolCatalog) (invocation : Invocation) :
    (catalog.dispatch backend invocation state).2 = state ∨
      ∃ arguments, (catalog.dispatch backend invocation state).2 =
        backend.after state (.invoke invocation.name arguments) := by
  cases found : catalog.find? invocation.name with
  | none => exact .inl (by rw [dispatch_of_unlisted invocation (find?_eq_none_iff.mp found)])
  | some tool =>
    by_cases taken : ∃ members, tool.Takes invocation.arguments members
    · obtain ⟨members, taken⟩ := taken
      have named : tool.name = invocation.name := name_of_find? Tool.name found
      refine .inr ⟨tool.marshal members, ?_⟩
      rw [dispatch_of_takes invocation found taken, named]
      rfl
    · obtain ⟨field, message, refused⟩ := dispatch_of_not_takes invocation found
        (fun members takes => taken ⟨members, takes⟩) backend state
      exact .inl (by rw [refused])

theorem ResourceCatalog.read_after (catalog : ResourceCatalog) (uri : String) :
    (catalog.read backend uri state).2 = state ∨
      (catalog.read backend uri state).2 =
        backend.after state (.materialize (ResourceUri.parse uri).typeToken) := by
  cases found : catalog.find? (ResourceUri.parse uri).typeToken with
  | none => exact .inl (by rw [read_of_unknown found])
  | some resource =>
    have named : resource.typeName = (ResourceUri.parse uri).typeToken :=
      name_of_find? ResourceType.typeName found
    refine .inr ?_
    rw [read_of_find? found, named]
    rfl

end

namespace Server

variable {σ : Type} (server : Server σ)

/-! ## One request -/

/-- The state after a request with an id is the one that its answer leaves. -/
theorem handle_snd {request : Request} (numbered : request.id ≠ none) (state : ServerState σ) :
    (server.handle request state).2 = (server.answer request state).2 := by
  have asks : request.isNotification = false := by
    simpa [Request.isNotification, Option.isSome_iff_ne_none] using numbered
  simp only [handle, asks, Bool.false_eq_true, if_false]
  split <;> rfl

theorem answerToolCall_client (request : Request) (state : ServerState σ) :
    (server.answerToolCall request state).2.client = state.client := by
  unfold answerToolCall
  split <;> rfl

theorem answerResourceRead_client (request : Request) (state : ServerState σ) :
    (server.answerResourceRead request state).2.client = state.client := by
  unfold answerResourceRead
  split
  · rfl
  · dsimp only
    split <;> rfl

theorem answerToolCall_backend (request : Request) (state : ServerState σ) :
    (server.answerToolCall request state).2.backend = state.backend ∨
      ∃ name arguments, request.GivesText "name" name ∧
        (server.answerToolCall request state).2.backend =
          server.backend.after state.backend (.invoke name arguments) := by
  unfold answerToolCall
  cases given : request.stringParam? "name" with
  | none => exact .inl rfl
  | some name =>
    have named := Request.stringParam?_eq_some_iff.mp given
    have called : ∀ invocation, (server.callTool invocation state.backend).2 =
        (server.gateway.tools.dispatch server.backend invocation state.backend).2 := by
      intro invocation
      unfold callTool
      dsimp only
      split <;> rfl
    rcases server.gateway.tools.dispatch_after server.backend state.backend
      ⟨name, (request.param? "arguments").getD .null⟩ with kept | ⟨arguments, moved⟩
    · exact .inl ((called _).trans kept)
    · exact .inr ⟨name, arguments, named, (called _).trans moved⟩

theorem answerResourceRead_backend (request : Request) (state : ServerState σ) :
    (server.answerResourceRead request state).2.backend = state.backend ∨
      ∃ uri, request.GivesText "uri" uri ∧
        (server.answerResourceRead request state).2.backend =
          server.backend.after state.backend (.materialize (ResourceUri.parse uri).typeToken) := by
  unfold answerResourceRead
  cases given : request.stringParam? "uri" with
  | none => exact .inl rfl
  | some uri =>
    have named := Request.stringParam?_eq_some_iff.mp given
    have moves := server.gateway.resources.read_after server.backend state.backend uri
    -- the answer takes over the state that the reading leaves, whether it succeeds or not
    dsimp only
    split
    all_goals exact moves.imp_right fun moved => ⟨uri, named, moved⟩

/-- A request changes the name of the client exactly if it greets. -/
theorem client_handle_eq_iff {request : Request} {state : ServerState σ} {client : Option String} :
    (server.handle request state).2.client = client ↔
      (∃ name, request.Greets name ∧ client = some name) ∨
        ((∀ name, ¬ request.Greets name) ∧ state.client = client) := by
  -- it is enough to know the name that is left in both cases
  suffices (∀ name, request.Greets name → (server.handle request state).2.client = some name) ∧
      ((∀ name, ¬ request.Greets name) → (server.handle request state).2.client = state.client) by
    obtain ⟨changed, kept⟩ := this
    by_cases greets : ∃ name, request.Greets name
    · obtain ⟨name, greets⟩ := greets
      rw [changed name greets]
      constructor
      · rintro rfl
        exact .inl ⟨name, greets, rfl⟩
      · rintro (⟨other, alsoGreets, rfl⟩ | ⟨silent, -⟩)
        · exact (changed name greets).symm.trans (changed other alsoGreets)
        · exact absurd greets (silent name)
    · have silent : ∀ name, ¬ request.Greets name := fun name named => greets ⟨name, named⟩
      rw [kept silent]
      constructor
      · rintro rfl
        exact .inr ⟨silent, rfl⟩
      · rintro (⟨name, named, -⟩ | ⟨-, rfl⟩)
        · exact absurd named (silent name)
        · rfl
  constructor
  · intro name greets
    obtain ⟨asked, numbered, rfl⟩ := Request.greets_iff.mp greets
    have verb : Verb.ofName? "initialize" = some .greet := rfl
    rw [server.handle_snd numbered, answer, asked, verb]
  · intro silent
    by_cases numbered : request.id = none
    · rw [Session.handle_notification server numbered]
    · rw [server.handle_snd numbered, answer]
      split
      · rfl
      next verb =>
        have asked := ofName?_eq_some_iff.mp verb
        simp only [Verb.byName, List.mem_cons, Prod.mk.injEq] at asked
        have : request.Greets (greetingName request) :=
          Request.greets_iff.mpr ⟨by simpa using asked, numbered, rfl⟩
        exact absurd this (silent _)
      · rfl
      · rfl
      · rfl
      · exact server.answerToolCall_client request state
      · rfl
      · exact server.answerResourceRead_client request state

/-- A request changes the state of the backend only through the calls that it causes. -/
theorem exists_calls_of_handle (request : Request) (state : ServerState σ) :
    ∃ calls, request.Causes calls ∧
      (server.handle request state).2.backend = calls.foldl server.backend.after state.backend := by
  by_cases numbered : request.id = none
  · exact ⟨[], .nothing, by rw [Session.handle_notification server numbered]; rfl⟩
  · rw [server.handle_snd numbered, answer]
    cases asked : Verb.ofName? request.method with
    | none => exact ⟨[], .nothing, rfl⟩
    | some verb =>
      cases verb with
      | callTool =>
        have called := ofName?_eq_callTool_iff.mp asked
        rcases server.answerToolCall_backend request state with
          kept | ⟨name, arguments, named, moved⟩
        · exact ⟨[], .nothing, kept⟩
        · exact ⟨_, .invocation called numbered named, moved⟩
      | readResource =>
        have read := ofName?_eq_readResource_iff.mp asked
        rcases server.answerResourceRead_backend request state with kept | ⟨uri, named, moved⟩
        · exact ⟨[], .nothing, kept⟩
        · exact ⟨_, .materialization read numbered named, moved⟩
      | _ => exact ⟨[], .nothing, rfl⟩

/-- Apart from tool calls and resource reads, a request gets the same answer in every state. -/
theorem handle_fst_eq {request : Request} (noCall : request.method ≠ "tools/call")
    (noRead : request.method ≠ "resources/read") (state other : ServerState σ) :
    (server.handle request state).1 = (server.handle request other).1 := by
  have same : (server.answer request state).1 = (server.answer request other).1 := by
    unfold answer
    cases asked : Verb.ofName? request.method with
    | none => rfl
    | some verb =>
      cases verb with
      | callTool => exact absurd (ofName?_eq_callTool_iff.mp asked) noCall
      | readResource => exact absurd (ofName?_eq_readResource_iff.mp asked) noRead
      | _ => rfl
  unfold handle
  split
  · rfl
  · dsimp only
    rw [same]
    split <;> rfl

/-! ## Requests one after the other -/

/-- Handles requests one after the other. -/
def handleAll : List Request → ServerState σ → List (Option Response) × ServerState σ
  | [], state => ([], state)
  | request :: rest, state =>
    let (reply, state) := server.handle request state
    let (replies, state) := handleAll rest state
    (reply :: replies, state)

theorem handleAll_append (first second : List Request) (state : ServerState σ) :
    server.handleAll (first ++ second) state =
      ((server.handleAll first state).1 ++
          (server.handleAll second (server.handleAll first state).2).1,
        (server.handleAll second (server.handleAll first state).2).2) := by
  induction first generalizing state with
  | nil => rfl
  | cons request rest ih => simp only [List.cons_append, handleAll, ih]

theorem length_handleAll (requests : List Request) (state : ServerState σ) :
    (server.handleAll requests state).1.length = requests.length := by
  induction requests generalizing state with
  | nil => rfl
  | cons request rest ih => simp only [handleAll, List.length_cons, ih]

theorem handleAll_recorded (requests : List Request) (state : ServerState (σ × List Call)) :
    server.handleAll requests state.unrecorded =
      ((server.recorded.handleAll requests state).1,
        (server.recorded.handleAll requests state).2.unrecorded) := by
  induction requests generalizing state with
  | nil => rfl
  | cons request rest ih => simp only [handleAll, server.handle_recorded, ih]

/-- The name that a server reports is the one that the requests settle. -/
theorem client_handleAll_eq_iff {requests : List Request} {state : ServerState σ}
    (fresh : state.client = none) {client : Option String} :
    (server.handleAll requests state).2.client = client ↔ ReportedClient requests client := by
  induction requests using List.reverseRecOn generalizing client with
  | nil =>
    rw [handleAll, fresh]
    constructor
    · rintro rfl
      exact .none (by simp)
    · intro reported
      cases reported with
      | none _ => rfl
      | last split _ _ => simp at split
  | append_singleton requests request ih =>
    rw [handleAll_append, reportedClient_concat_iff, ← ih]
    exact server.client_handle_eq_iff

/-- Requests change the state of the backend only through the calls that they cause, each of them in
its turn. -/
theorem exists_calls_of_handleAll (requests : List Request) (state : ServerState σ) :
    ∃ calls, List.Forall₂ Request.Causes requests calls ∧
      (server.handleAll requests state).2.backend =
        calls.flatten.foldl server.backend.after state.backend := by
  induction requests generalizing state with
  | nil => exact ⟨[], .nil, rfl⟩
  | cons request rest ih =>
    obtain ⟨here, caused, moved⟩ := server.exists_calls_of_handle request state
    obtain ⟨later, others, final⟩ := ih (server.handle request state).2
    refine ⟨here :: later, .cons caused others, ?_⟩
    rw [List.flatten_cons, List.foldl_append, ← moved]
    exact final

/-- **What a server remembers, and what it does not.** A server that starts without a client's name
handles any requests. The name it reports is none until a request with an id initializes it, and then
the one given by the last such request. The calls that reach the backend are those that the requests
cause, in their order, at most one each, and only through them its state changes. A request without
an id gets no reply and makes no difference to anything else. The answer to a request that is neither
a tool call nor a resource read is the same wherever it comes. -/
theorem handleAll_contained (start : σ) :
    (∀ requests, server.handleAll requests ⟨none, start⟩ =
      ((server.recorded.handleAll requests (ServerState.uncalled ⟨none, start⟩)).1,
        (server.recorded.handleAll requests (ServerState.uncalled ⟨none, start⟩)).2.unrecorded)) ∧
    (∀ requests client,
      (server.recorded.handleAll requests (ServerState.uncalled ⟨none, start⟩)).2.client = client ↔
        ReportedClient requests client) ∧
    (∀ requests, ∃ calls, List.Forall₂ Request.Causes requests calls ∧
      (server.recorded.handleAll requests (ServerState.uncalled ⟨none, start⟩)).2.backend =
        (calls.flatten.foldl server.backend.after start, calls.flatten.reverse)) ∧
    (∀ before request after, request.id = none →
      ∃ earlier later final, earlier.length = before.length ∧
        server.recorded.handleAll (before ++ after) (ServerState.uncalled ⟨none, start⟩) =
          (earlier ++ later, final) ∧
        server.recorded.handleAll (before ++ request :: after)
            (ServerState.uncalled ⟨none, start⟩) = (earlier ++ none :: later, final)) ∧
    (∀ request, request.method ≠ "tools/call" → request.method ≠ "resources/read" →
      ∃ answer, ∀ before after state,
        (server.handleAll (before ++ request :: after) state).1[before.length]? = some answer) := by
  refine ⟨?recording, ?client, ?calls, ?notifications, ?answers⟩
  case recording =>
    intro requests
    exact server.handleAll_recorded requests (ServerState.uncalled ⟨none, start⟩)
  case client =>
    intro requests client
    exact server.recorded.client_handleAll_eq_iff rfl
  case calls =>
    intro requests
    obtain ⟨calls, caused, moved⟩ := server.recorded.exists_calls_of_handleAll requests
      (ServerState.uncalled ⟨none, start⟩)
    refine ⟨calls, caused, moved.trans ?_⟩
    exact (server.backend.foldl_after_recorded calls.flatten (start, [])).trans (by simp)
  case notifications =>
    intro before request after unnumbered
    refine ⟨_, _, _, server.recorded.length_handleAll before _,
      server.recorded.handleAll_append before after _, ?_⟩
    rw [handleAll_append, handleAll, Session.handle_notification server.recorded unnumbered]
  case answers =>
    intro request noCall noRead
    refine ⟨(server.handle request ⟨none, start⟩).1, ?_⟩
    intro before after state
    rw [handleAll_append, List.getElem?_append_right (Nat.le_of_eq (server.length_handleAll _ _)),
      server.length_handleAll, Nat.sub_self, handleAll, List.getElem?_cons_zero]
    exact congrArg some (server.handle_fst_eq noCall noRead _ _)

end Server

end ToolGateway
