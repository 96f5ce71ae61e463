import ToolGateway.Proofs.Gateway.Addressing
import ToolGateway.Server.Basic

/-!
# What a server replies

A request with an id gets one response. It carries the id and either a result or an error.
`Server.Refusal` lists the errors: when each of them arises, and with which code, message and data. It
looks at the method, at the parameters, at the listed resources and at what the backend does, and at
no function of a server. `handle_contract` says that these are the errors that are sent, and that
everything else succeeds, failing tool calls too.
-/

namespace ToolGateway

namespace Request

/-- The parameters are an object whose member of this name is this text. -/
def GivesText (request : Request) (name text : String) : Prop :=
  ∃ members, request.params = some (.object members) ∧
    Members.find? members name = some (.string text)

/-- The parameters give no text under this name, whatever they are. -/
def LacksText (request : Request) (name : String) : Prop := ∀ text, ¬ request.GivesText name text

theorem stringParam?_eq_some_iff {request : Request} {name text : String} :
    request.stringParam? name = some text ↔ request.GivesText name text := by
  unfold stringParam? param? GivesText
  constructor
  · intro found
    obtain ⟨value, member, isText⟩ := Option.bind_eq_some_iff.mp found
    obtain ⟨params, given, inside⟩ := Option.bind_eq_some_iff.mp member
    cases params with
    | object members =>
      cases value with
      | string other =>
        obtain rfl := Option.some.inj isText
        exact ⟨members, given, inside⟩
      | _ => cases isText
    | _ => cases inside
  · rintro ⟨members, given, inside⟩
    rw [given]
    simp [Json.get?, inside, Json.asString?]

theorem stringParam?_eq_none_iff {request : Request} {name : String} :
    request.stringParam? name = none ↔ request.LacksText name := by
  simp only [LacksText, ← stringParam?_eq_some_iff]
  exact Option.eq_none_iff_forall_ne_some

end Request

/-- The response is an error with this code. -/
def Response.HasCode (response : Response) (code : Int) : Prop :=
  ∃ error, response.error = some error ∧ error.code = code

namespace Server

/-- The methods of the protocol. -/
def methods : List String :=
  ["initialize", "initialized", "notifications/initialized", "ping", "tools/list", "tools/call",
    "resources/list", "resources/read"]

theorem ofName?_eq_some_iff {method : String} {verb : Verb} :
    Verb.ofName? method = some verb ↔ (method, verb) ∈ Verb.byName := by
  have once : ∀ entry ∈ Verb.byName, Verb.ofName? entry.1 = some entry.2 := by decide
  constructor
  · intro found
    obtain ⟨before, after, split, -⟩ := List.lookup_eq_some_iff.mp found
    rw [split]
    simp
  · intro listed
    exact once _ listed

theorem ofName?_eq_none_iff {method : String} : Verb.ofName? method = none ↔ method ∉ methods := by
  have names : methods = Verb.byName.map Prod.fst := rfl
  rw [names, Verb.ofName?, List.lookup_eq_none_iff, List.mem_map]
  constructor
  · rintro different ⟨entry, listed, rfl⟩
    simpa using different entry listed
  · intro unlisted entry listed
    rw [bne_iff_ne]
    rintro rfl
    exact unlisted ⟨entry, listed, rfl⟩

theorem ofName?_eq_callTool_iff {method : String} :
    Verb.ofName? method = some .callTool ↔ method = "tools/call" := by
  rw [ofName?_eq_some_iff]
  simp [Verb.byName]

theorem ofName?_eq_readResource_iff {method : String} :
    Verb.ofName? method = some .readResource ↔ method = "resources/read" := by
  rw [ofName?_eq_some_iff]
  simp [Verb.byName]

variable {σ : Type}

/-- Whether a resource of this name is listed. -/
def Lists (server : Server σ) (typeName : String) : Prop :=
  ∃ resource ∈ server.gateway.resources.resources, resource.typeName = typeName

/-- The data of an error about a resource. -/
def readData (uri kind : String) : Json := .object [("uri", .string uri), ("kind", .string kind)]

/-- The errors that a resource read gets. -/
inductive ReadRefusal (server : Server σ) (request : Request) (state : σ) : RpcError → Prop where
  | unnamed (unnamed : request.LacksText "uri") :
      ReadRefusal server request state ⟨-32602, "Missing resource uri", none⟩
  | unknownType {uri : String} (named : request.GivesText "uri" uri)
      (unlisted : ¬ server.Lists (ResourceUri.parse uri).typeToken) :
      ReadRefusal server request state
        ⟨-32002, "Unknown resource type: " ++ (ResourceUri.parse uri).typeToken,
          some (readData uri "UNKNOWN_RESOURCE_TYPE")⟩
  /-- The backend refuses to show the resource. -/
  | refused {uri kind message : String} (named : request.GivesText "uri" uri)
      (listed : server.Lists (ResourceUri.parse uri).typeToken)
      (outcome : (server.backend.materialize (ResourceUri.parse uri).typeToken state).1 =
        .failed (.domain kind message)) :
      ReadRefusal server request state
        ⟨-32603, kind ++ ": " ++ message, some (readData uri kind)⟩
  /-- The backend is out of reach. -/
  | unreachable {uri message : String} (named : request.GivesText "uri" uri)
      (listed : server.Lists (ResourceUri.parse uri).typeToken)
      (outcome : (server.backend.materialize (ResourceUri.parse uri).typeToken state).1 =
        .failed (.unavailable message)) :
      ReadRefusal server request state
        ⟨-32603, "Backend unavailable: " ++ message, some (readData uri "BACKEND_UNAVAILABLE")⟩
  /-- The backend breaks off. -/
  | brokenOff {uri : String} (named : request.GivesText "uri" uri)
      (listed : server.Lists (ResourceUri.parse uri).typeToken)
      (outcome : (server.backend.materialize (ResourceUri.parse uri).typeToken state).1 = .aborted) :
      ReadRefusal server request state
        ⟨-32603, "Backend unavailable: Backend failed unexpectedly while reading "
            ++ (ResourceUri.parse uri).typeToken,
          some (readData uri "BACKEND_UNAVAILABLE")⟩

/-- The errors that a request with an id gets. -/
inductive Refusal (server : Server σ) (request : Request) (state : σ) : RpcError → Prop where
  | unknownMethod (unknown : request.method ∉ methods) :
      Refusal server request state ⟨-32601, "Method not found: " ++ request.method, none⟩
  | unnamedTool (calls : request.method = "tools/call") (unnamed : request.LacksText "name") :
      Refusal server request state ⟨-32602, "Missing tool name", none⟩
  | failedRead {error : RpcError} (reads : request.method = "resources/read")
      (failed : server.ReadRefusal request state error) : Refusal server request state error

/-- A tool call or a resource read whose parameters do not say of what. -/
def Unaddressed (request : Request) : Prop :=
  (request.method = "tools/call" ∧ request.LacksText "name") ∨
    (request.method = "resources/read" ∧ request.LacksText "uri")

/-- A resource read of a type that is not listed. -/
def ReadsUnlisted (server : Server σ) (request : Request) : Prop :=
  request.method = "resources/read" ∧ ∃ uri, request.GivesText "uri" uri ∧
    ¬ server.Lists (ResourceUri.parse uri).typeToken

/-- A resource read of a listed type for which the backend has no text. -/
def ReadFails (server : Server σ) (request : Request) (state : σ) : Prop :=
  request.method = "resources/read" ∧ ∃ uri, request.GivesText "uri" uri ∧
    server.Lists (ResourceUri.parse uri).typeToken ∧
      ∀ text, (server.backend.materialize (ResourceUri.parse uri).typeToken state).1 ≠ .done text

/-- What a response owes to the request it answers, given the state of the backend before. -/
structure Contract (server : Server σ) (request : Request) (state : σ) (response : Response) :
    Prop where
  version : response.version = "2.0"
  sameId : response.id = request.id
  /-- A response has a result or an error and not both. -/
  either : response.result.isSome = true ↔ response.error = none
  refused : ∀ error, response.error = some error ↔ server.Refusal request state error
  methodNotFound : response.HasCode (-32601) ↔ request.method ∉ methods
  invalidParams : response.HasCode (-32602) ↔ Unaddressed request
  resourceNotFound : response.HasCode (-32002) ↔ server.ReadsUnlisted request
  internalError : response.HasCode (-32603) ↔ server.ReadFails request state
  succeeded : response.error = none ↔ request.method ∈ methods ∧ ¬ Unaddressed request ∧
    ¬ server.ReadsUnlisted request ∧ ¬ server.ReadFails request state

variable {server : Server σ} {request : Request}

/-! ## Which requests get which error -/

theorem find?_eq_none_iff {typeName : String} :
    server.gateway.resources.find? typeName = none ↔ ¬ server.Lists typeName := by
  simp [ResourceCatalog.find?, Lists]

theorem answerToolCall_eq_error_iff {state : ServerState σ} {error : RpcError} :
    (server.answerToolCall request state).1 = .error error ↔
      request.LacksText "name" ∧ error = .invalidParams "Missing tool name" := by
  rw [← Request.stringParam?_eq_none_iff, answerToolCall]
  cases request.stringParam? "name" <;> simp [eq_comm]

theorem answerResourceRead_of_unlisted {uri : String} (named : request.GivesText "uri" uri)
    (unlisted : ¬ server.Lists (ResourceUri.parse uri).typeToken) (state : ServerState σ) :
    (server.answerResourceRead request state).1 =
      .error ⟨-32002, "Unknown resource type: " ++ (ResourceUri.parse uri).typeToken,
        some (readData uri "UNKNOWN_RESOURCE_TYPE")⟩ := by
  have given := Request.stringParam?_eq_some_iff.mpr named
  have unknown := find?_eq_none_iff.mpr unlisted
  simp only [answerResourceRead, given, ResourceCatalog.read_of_unknown unknown]
  rfl

/-- The reply to a read of a listed resource, by what the backend does. -/
def shownOutcome (resource : ResourceType) (uri : String) :
    Outcome String → Except RpcError Json
  | .done text =>
    .ok (.object [("contents", .array [(ResourceContents.mk uri resource.mediaType text).toJson])])
  | .failed (.domain kind message) =>
    .error ⟨-32603, kind ++ ": " ++ message, some (readData uri kind)⟩
  | .failed (.unavailable message) =>
    .error ⟨-32603, "Backend unavailable: " ++ message, some (readData uri "BACKEND_UNAVAILABLE")⟩
  | .aborted =>
    .error ⟨-32603, "Backend unavailable: Backend failed unexpectedly while reading "
      ++ resource.typeName, some (readData uri "BACKEND_UNAVAILABLE")⟩

theorem exists_answerResourceRead_of_listed {uri : String} (named : request.GivesText "uri" uri)
    (listed : server.Lists (ResourceUri.parse uri).typeToken) (state : ServerState σ) :
    ∃ resource : ResourceType, resource.typeName = (ResourceUri.parse uri).typeToken ∧
      (server.answerResourceRead request state).1 = shownOutcome resource uri
        (server.backend.materialize (ResourceUri.parse uri).typeToken state.backend).1 := by
  have given := Request.stringParam?_eq_some_iff.mpr named
  cases found : server.gateway.resources.find? (ResourceUri.parse uri).typeToken with
  | none => exact absurd listed (find?_eq_none_iff.mp found)
  | some resource =>
    have typed : resource.typeName = (ResourceUri.parse uri).typeToken :=
      name_of_find? ResourceType.typeName found
    refine ⟨resource, typed, ?_⟩
    simp only [answerResourceRead, given, ResourceCatalog.read_of_find? found, typed]
    rcases (server.backend.materialize (ResourceUri.parse uri).typeToken state.backend).1 with
      text | (⟨kind, message⟩ | message) | _
    · rfl
    · rfl
    · rfl
    · rw [shownOutcome, typed]
      rfl

theorem answerResourceRead_eq_error_iff {state : ServerState σ} {error : RpcError} :
    (server.answerResourceRead request state).1 = .error error ↔
      server.ReadRefusal request state.backend error := by
  constructor
  · intro answered
    cases given : request.stringParam? "uri" with
    | none =>
      rw [answerResourceRead, given] at answered
      obtain rfl := Except.error.inj answered
      exact .unnamed (Request.stringParam?_eq_none_iff.mp given)
    | some uri =>
      have named := Request.stringParam?_eq_some_iff.mp given
      by_cases listed : server.Lists (ResourceUri.parse uri).typeToken
      · obtain ⟨resource, typed, shown⟩ := exists_answerResourceRead_of_listed named listed state
        rw [shown] at answered
        rcases outcome : (server.backend.materialize (ResourceUri.parse uri).typeToken
          state.backend).1 with text | (⟨kind, message⟩ | message) | _
        · rw [outcome] at answered
          cases answered
        · rw [outcome] at answered
          obtain rfl := Except.error.inj answered
          exact .refused named listed outcome
        · rw [outcome] at answered
          obtain rfl := Except.error.inj answered
          exact .unreachable named listed outcome
        · rw [outcome, shownOutcome, typed] at answered
          obtain rfl := Except.error.inj answered
          exact .brokenOff named listed outcome
      · rw [answerResourceRead_of_unlisted named listed] at answered
        obtain rfl := Except.error.inj answered
        exact .unknownType named listed
  · intro refusal
    cases refusal with
    | unnamed unnamed =>
      rw [answerResourceRead, Request.stringParam?_eq_none_iff.mpr unnamed]
      rfl
    | unknownType named unlisted => exact answerResourceRead_of_unlisted named unlisted state
    | refused named listed outcome =>
      obtain ⟨resource, -, shown⟩ := exists_answerResourceRead_of_listed named listed state
      rw [shown, outcome, shownOutcome]
    | unreachable named listed outcome =>
      obtain ⟨resource, -, shown⟩ := exists_answerResourceRead_of_listed named listed state
      rw [shown, outcome, shownOutcome]
    | brokenOff named listed outcome =>
      obtain ⟨resource, typed, shown⟩ := exists_answerResourceRead_of_listed named listed state
      rw [shown, outcome, shownOutcome, typed]

/-- The answer to a request of a known method other than the two that can be refused. -/
theorem exists_answer (server : Server σ) {verb : Verb} (asked : Verb.ofName? request.method = some verb)
    (noCall : verb ≠ .callTool) (noRead : verb ≠ .readResource) (state : ServerState σ) :
    ∃ result, (server.answer request state).1 = .ok result := by
  rw [answer, asked]
  cases verb with
  | callTool => exact absurd rfl noCall
  | readResource => exact absurd rfl noRead
  | _ => exact ⟨_, rfl⟩

theorem answer_eq_error_iff {state : ServerState σ} {error : RpcError} :
    (server.answer request state).1 = .error error ↔
      server.Refusal request state.backend error := by
  constructor
  · intro answered
    cases asked : Verb.ofName? request.method with
    | none =>
      rw [answer, asked] at answered
      obtain rfl := Except.error.inj answered
      exact .unknownMethod (ofName?_eq_none_iff.mp asked)
    | some verb =>
      by_cases calls : verb = .callTool
      · subst calls
        rw [answer, asked] at answered
        obtain ⟨unnamed, rfl⟩ := answerToolCall_eq_error_iff.mp answered
        exact .unnamedTool (ofName?_eq_callTool_iff.mp asked) unnamed
      · by_cases reads : verb = .readResource
        · subst reads
          rw [answer, asked] at answered
          exact .failedRead (ofName?_eq_readResource_iff.mp asked)
            (answerResourceRead_eq_error_iff.mp answered)
        · obtain ⟨result, succeeded⟩ := exists_answer server asked calls reads state
          rw [succeeded] at answered
          cases answered
  · intro refusal
    cases refusal with
    | unknownMethod unknown =>
      rw [answer, ofName?_eq_none_iff.mpr unknown]
      rfl
    | unnamedTool calls unnamed =>
      rw [answer, ofName?_eq_callTool_iff.mpr calls]
      exact answerToolCall_eq_error_iff.mpr ⟨unnamed, rfl⟩
    | failedRead reads failed =>
      rw [answer, ofName?_eq_readResource_iff.mpr reads]
      exact answerResourceRead_eq_error_iff.mpr failed

/-! ## Which requests get which code -/

theorem ReadRefusal.code_eq {state : σ} {error : RpcError}
    (reads : request.method = "resources/read") (refusal : server.ReadRefusal request state error) :
    (error.code = -32602 ∧ Unaddressed request) ∨
      (error.code = -32002 ∧ server.ReadsUnlisted request) ∨
      (error.code = -32603 ∧ server.ReadFails request state) := by
  cases refusal with
  | unnamed unnamed => exact .inl ⟨rfl, .inr ⟨reads, unnamed⟩⟩
  | unknownType named unlisted => exact .inr (.inl ⟨rfl, reads, _, named, unlisted⟩)
  | refused named listed outcome =>
    exact .inr (.inr ⟨rfl, reads, _, named, listed, by simp [outcome]⟩)
  | unreachable named listed outcome =>
    exact .inr (.inr ⟨rfl, reads, _, named, listed, by simp [outcome]⟩)
  | brokenOff named listed outcome =>
    exact .inr (.inr ⟨rfl, reads, _, named, listed, by simp [outcome]⟩)

theorem Refusal.code_eq {state : σ} {error : RpcError}
    (refusal : server.Refusal request state error) :
    (error.code = -32601 ∧ request.method ∉ methods) ∨
      (error.code = -32602 ∧ Unaddressed request) ∨
      (error.code = -32002 ∧ server.ReadsUnlisted request) ∨
      (error.code = -32603 ∧ server.ReadFails request state) := by
  cases refusal with
  | unknownMethod unknown => exact .inl ⟨rfl, unknown⟩
  | unnamedTool calls unnamed => exact .inr (.inl ⟨rfl, .inl ⟨calls, unnamed⟩⟩)
  | failedRead reads failed => exact .inr (failed.code_eq reads)

theorem exists_refusal_of_unaddressed (server : Server σ) (state : σ)
    (unaddressed : Unaddressed request) :
    ∃ error, server.Refusal request state error ∧ error.code = -32602 := by
  rcases unaddressed with ⟨calls, unnamed⟩ | ⟨reads, unnamed⟩
  · exact ⟨_, .unnamedTool calls unnamed, rfl⟩
  · exact ⟨_, .failedRead reads (.unnamed unnamed), rfl⟩

theorem exists_refusal_of_readsUnlisted {state : σ} (unlisted : server.ReadsUnlisted request) :
    ∃ error, server.Refusal request state error ∧ error.code = -32002 := by
  obtain ⟨reads, uri, named, unlisted⟩ := unlisted
  exact ⟨_, .failedRead reads (.unknownType named unlisted), rfl⟩

theorem exists_refusal_of_readFails {state : σ} (fails : server.ReadFails request state) :
    ∃ error, server.Refusal request state error ∧ error.code = -32603 := by
  obtain ⟨reads, uri, named, listed, fails⟩ := fails
  rcases outcome : (server.backend.materialize (ResourceUri.parse uri).typeToken state).1 with
    text | (⟨kind, message⟩ | message) | _
  · exact absurd outcome (fails text)
  · exact ⟨_, .failedRead reads (.refused named listed outcome), rfl⟩
  · exact ⟨_, .failedRead reads (.unreachable named listed outcome), rfl⟩
  · exact ⟨_, .failedRead reads (.brokenOff named listed outcome), rfl⟩

/-- A response that carries the errors of the request, and a result if there is none, honours the
contract. -/
theorem Contract.of_refused {state : σ} {response : Response} (version : response.version = "2.0")
    (sameId : response.id = request.id)
    (either : response.result.isSome = true ↔ response.error = none)
    (refused : ∀ error, response.error = some error ↔ server.Refusal request state error) :
    server.Contract request state response := by
  have hasCode : ∀ code, response.HasCode code ↔
      ∃ error, server.Refusal request state error ∧ error.code = code := by
    intro code
    simp only [Response.HasCode, refused]
  refine ⟨version, sameId, either, refused, ?_, ?_, ?_, ?_, ?_⟩
  · rw [hasCode]
    constructor
    · rintro ⟨error, refusal, code⟩
      have := refusal.code_eq
      simpa [code] using this
    · intro unknown
      exact ⟨_, .unknownMethod unknown, rfl⟩
  · rw [hasCode]
    constructor
    · rintro ⟨error, refusal, code⟩
      have := refusal.code_eq
      simpa [code] using this
    · exact exists_refusal_of_unaddressed server state
  · rw [hasCode]
    constructor
    · rintro ⟨error, refusal, code⟩
      have := refusal.code_eq
      simpa [code] using this
    · exact exists_refusal_of_readsUnlisted
  · rw [hasCode]
    constructor
    · rintro ⟨error, refusal, code⟩
      have := refusal.code_eq
      simpa [code] using this
    · exact exists_refusal_of_readFails
  · constructor
    · intro succeeded
      have none : ∀ error, ¬ server.Refusal request state error := by
        intro error refusal
        rw [← refused, succeeded] at refusal
        cases refusal
      refine ⟨?_, ?_, ?_, ?_⟩
      · exact Decidable.byContradiction fun unknown => none _ (.unknownMethod unknown)
      · intro unaddressed
        obtain ⟨error, refusal, -⟩ := exists_refusal_of_unaddressed server state unaddressed
        exact none error refusal
      · intro unlisted
        obtain ⟨error, refusal, -⟩ := exists_refusal_of_readsUnlisted unlisted
        exact none error refusal
      · intro fails
        obtain ⟨error, refusal, -⟩ := exists_refusal_of_readFails fails
        exact none error refusal
    · rintro ⟨known, addressed, listed, shown⟩
      rw [Option.eq_none_iff_forall_ne_some]
      intro error found
      have := ((refused error).mp found).code_eq
      simp [known, addressed, listed, shown] at this

/-- **The contract of a reply.** A request gets no response exactly when it has no id. Every other
request gets one response, under its id, with a result or an error; an error comes with one of four
codes, each of them exactly when it applies, and whatever else a request asks for succeeds. -/
theorem handle_contract (server : Server σ) (request : Request) (state : ServerState σ) :
    ((server.handle request state).1 = none ↔ request.id = none) ∧
      ∀ response, (server.handle request state).1 = some response →
        server.Contract request state.backend response := by
  have answered := @answer_eq_error_iff _ server request state
  unfold handle
  by_cases silent : request.isNotification = true
  · rw [if_pos silent]
    have noId : request.id = none := Option.isNone_iff_eq_none.mp silent
    refine ⟨by simp [noId], ?_⟩
    intro response replied
    cases replied
  · rw [if_neg silent]
    have numbered : request.id ≠ none := fun noId => silent (Option.isNone_iff_eq_none.mpr noId)
    rcases outcome : server.answer request state with ⟨error | result, next⟩
    · rw [outcome] at answered
      refine ⟨by simp [numbered], ?_⟩
      intro response replied
      obtain rfl := Option.some.inj replied
      refine .of_refused rfl rfl (by simp [Response.failure]) ?_
      intro other
      rw [← answered]
      simp [Response.failure]
    · rw [outcome] at answered
      refine ⟨by simp [numbered], ?_⟩
      intro response replied
      obtain rfl := Option.some.inj replied
      refine .of_refused rfl rfl (by simp [Response.success]) ?_
      intro other
      rw [← answered]
      simp [Response.success]

end Server

end ToolGateway
