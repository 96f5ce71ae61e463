import ToolGateway.Proofs.Decode.Json
import ToolGateway.Users.Message

/-!
# Calls of the user service

A call names a method and brings an object of arguments. `UserCall.Asks` says in terms of the object
which request a call makes: an absent text is empty, absent roles are none, and an update leaves a
name or an email alone that is absent or `null`. Everything else is refused (`ofCall_eq_ok_iff`).
-/

namespace ToolGateway

/-- A call of a method of the user service. -/
structure UserCall where
  method : String
  arguments : Json.Object
deriving Inhabited

namespace UserCall

/-- The member is this value in its JSON form, or is not given, and the value is the one for that. -/
def MemberIs {α : Type} (toJson : α → Json) (absent : α) (arguments : Json.Object) (name : String)
    (value : α) : Prop :=
  Members.find? arguments name = some (toJson value) ∨
    (Members.find? arguments name = none ∧ value = absent)

/-- The member is this text; a text that is not given is empty. -/
def TextAt : Json.Object → String → String → Prop := MemberIs .string ""

/-- The member is this text, or, for none, it is absent or `null`. -/
def GivenAt : Json.Object → String → Option String → Prop := MemberIs .ofString? none

/-- The member is this array of texts; an array that is not given is empty. -/
def TextsAt : Json.Object → String → List String → Prop := MemberIs .strings []

/-- The request that a call makes. -/
inductive Asks (call : UserCall) : UserRequest → Prop where
  | create {name email : String} {roles : List String} (called : call.method = "CreateUser")
      (named : TextAt call.arguments "name" name) (addressed : TextAt call.arguments "email" email)
      (given : TextsAt call.arguments "roles" roles) : Asks call (.create ⟨name, email, roles⟩)
  | update {id : String} {name email : Option String} {roles : List String}
      (called : call.method = "UpdateUser") (about : TextAt call.arguments "id" id)
      (named : GivenAt call.arguments "name" name)
      (addressed : GivenAt call.arguments "email" email)
      (given : TextsAt call.arguments "roles" roles) : Asks call (.update ⟨id, name, email, roles⟩)
  | get {id : String} (called : call.method = "GetUser") (about : TextAt call.arguments "id" id) :
      Asks call (.get ⟨id⟩)

/-! ## Fields -/

section

variable {arguments : Json.Object} {name : String}

/-- A field whose decoder takes one JSON form for each value. -/
theorem withDefault_eq_value_iff {α : Type} {decode : Decoder Json α} {toJson : α → Json}
    (form : ∀ {given value}, decode given = .ok value ↔ given = toJson value) {absent value : α} :
    (Fields.named arguments).withDefault name decode absent = .value value ↔
      MemberIs toJson absent arguments name value := by
  rw [Fields.withDefault_eq_value_iff]
  simp only [form, exists_eq_right]
  rfl

theorem text_eq_value_iff {text : String} :
    (Fields.named arguments).withDefault name Decoder.string "" = .value text ↔
      TextAt arguments name text :=
  withDefault_eq_value_iff Decoder.string_eq_ok_iff

theorem given_eq_value_iff {text : Option String} :
    (Fields.named arguments).withDefault name (Decoder.optional Decoder.string) none = .value text ↔
      GivenAt arguments name text :=
  withDefault_eq_value_iff Decoder.optional_string_eq_ok_iff

theorem texts_eq_value_iff {texts : List String} :
    (Fields.named arguments).withDefault name (Decoder.list Decoder.string) [] = .value texts ↔
      TextsAt arguments name texts :=
  withDefault_eq_value_iff Decoder.list_string_eq_ok_iff

end

end UserCall

open UserCall

/-! ## Requests -/

/-- Whether a request is one for a new user. -/
def UserRequest.isCreate : UserRequest → Bool
  | .create _ => true
  | .update _ | .get _ => false

section

variable {arguments : Json.Object}

theorem CreateUserRequest.decode_eq_ok_iff {request : CreateUserRequest} :
    decode (.object arguments) = .ok request ↔ TextAt arguments "name" request.name ∧
      TextAt arguments "email" request.email ∧ TextsAt arguments "roles" request.roles := by
  rw [decode, Decoder.record_object_eq_ok_iff]
  simp only [Reading.seq_eq_value_iff, Reading.map_eq_value_iff, text_eq_value_iff,
    texts_eq_value_iff]
  constructor
  · rintro ⟨_, roles, ⟨_, email, ⟨name, named, rfl⟩, addressed, rfl⟩, given, rfl⟩
    exact ⟨named, addressed, given⟩
  · rintro ⟨named, addressed, given⟩
    exact ⟨_, _, ⟨_, _, ⟨_, named, rfl⟩, addressed, rfl⟩, given, rfl⟩

theorem UpdateUserRequest.decode_eq_ok_iff {request : UpdateUserRequest} :
    decode (.object arguments) = .ok request ↔ TextAt arguments "id" request.id ∧
      GivenAt arguments "name" request.name ∧ GivenAt arguments "email" request.email ∧
      TextsAt arguments "roles" request.roles := by
  rw [decode, Decoder.record_object_eq_ok_iff]
  simp only [Reading.seq_eq_value_iff, Reading.map_eq_value_iff, text_eq_value_iff,
    given_eq_value_iff, texts_eq_value_iff]
  constructor
  · rintro ⟨_, roles, ⟨_, email, ⟨_, name, ⟨id, about, rfl⟩, named, rfl⟩, addressed, rfl⟩, given, rfl⟩
    exact ⟨about, named, addressed, given⟩
  · rintro ⟨about, named, addressed, given⟩
    exact ⟨_, _, ⟨_, _, ⟨_, _, ⟨_, about, rfl⟩, named, rfl⟩, addressed, rfl⟩, given, rfl⟩

theorem GetUserRequest.decode_eq_ok_iff {request : GetUserRequest} :
    decode (.object arguments) = .ok request ↔ TextAt arguments "id" request.id := by
  rw [decode, Decoder.record_object_eq_ok_iff, Reading.map_eq_value_iff]
  simp only [text_eq_value_iff]
  constructor
  · rintro ⟨id, about, rfl⟩
    exact about
  · intro about
    exact ⟨_, about, rfl⟩

end

namespace UserRequest

theorem map_decodeArguments_eq_ok_iff {α : Type} {decode : Decoder Json α}
    {arguments : Json.Object} {wrap : α → UserRequest} {request : UserRequest} :
    wrap <$> decodeArguments decode arguments = .ok request ↔
      ∃ inner, decode (.object arguments) = .ok inner ∧ request = wrap inner := by
  rw [decodeArguments]
  cases decode (.object arguments) with
  | error error =>
    constructor
    · intro decoded
      cases decoded
    · rintro ⟨_, decoded, -⟩
      cases decoded
  | ok inner =>
    show Except.ok (wrap inner) = .ok request ↔ _
    simp [eq_comm]

/-- A call is decoded as the request that it makes, and refused if it makes none. -/
theorem ofCall_eq_ok_iff {call : UserCall} {request : UserRequest} :
    ofCall call.method call.arguments = .ok request ↔ call.Asks request := by
  constructor
  · intro decoded
    rw [ofCall] at decoded
    split at decoded
    next called =>
      obtain ⟨inner, read, rfl⟩ := map_decodeArguments_eq_ok_iff.mp decoded
      obtain ⟨named, addressed, given⟩ := CreateUserRequest.decode_eq_ok_iff.mp read
      exact .create called named addressed given
    split at decoded
    next called =>
      obtain ⟨inner, read, rfl⟩ := map_decodeArguments_eq_ok_iff.mp decoded
      obtain ⟨about, named, addressed, given⟩ := UpdateUserRequest.decode_eq_ok_iff.mp read
      exact .update called about named addressed given
    split at decoded
    next called =>
      obtain ⟨inner, read, rfl⟩ := map_decodeArguments_eq_ok_iff.mp decoded
      exact .get called (GetUserRequest.decode_eq_ok_iff.mp read)
    · cases decoded
  · intro asks
    cases asks with
    | create called named addressed given =>
      rw [ofCall, if_pos called, map_decodeArguments_eq_ok_iff]
      refine ⟨_, ?_, rfl⟩
      exact CreateUserRequest.decode_eq_ok_iff.mpr ⟨named, addressed, given⟩
    | update called about named addressed given =>
      rw [ofCall, if_neg (by simp [called]), if_pos called, map_decodeArguments_eq_ok_iff]
      refine ⟨_, ?_, rfl⟩
      exact UpdateUserRequest.decode_eq_ok_iff.mpr ⟨about, named, addressed, given⟩
    | get called about =>
      rw [ofCall, if_neg (by simp [called]), if_neg (by simp [called]), if_pos called,
        map_decodeArguments_eq_ok_iff]
      refine ⟨_, ?_, rfl⟩
      exact GetUserRequest.decode_eq_ok_iff.mpr about

end UserRequest

/-! ## Requests of which only the roles can be misread -/

section

variable {arguments : Json.Object} {items : List Json}

theorem CreateUserRequest.decode_of_roles {name email : String} (named : TextAt arguments "name" name)
    (addressed : TextAt arguments "email" email)
    (given : Members.find? arguments "roles" = some (.array items)) :
    decode (.object arguments) =
      (items.mapM Decoder.string).map fun roles => ⟨name, email, roles⟩ := by
  obtain ⟨position, roles⟩ := Fields.exists_position_of_find? given (Decoder.list Decoder.string) []
  refine Decoder.record_object_of_ofField ⟨position, ?_⟩
  rw [text_eq_value_iff.mpr named, text_eq_value_iff.mpr addressed, roles]
  exact Reading.value_seq_ofField _ _ _

theorem UpdateUserRequest.decode_of_roles {id : String} {name email : Option String}
    (about : TextAt arguments "id" id) (named : GivenAt arguments "name" name)
    (addressed : GivenAt arguments "email" email)
    (given : Members.find? arguments "roles" = some (.array items)) :
    decode (.object arguments) =
      (items.mapM Decoder.string).map fun roles => ⟨id, name, email, roles⟩ := by
  obtain ⟨position, roles⟩ := Fields.exists_position_of_find? given (Decoder.list Decoder.string) []
  refine Decoder.record_object_of_ofField ⟨position, ?_⟩
  rw [text_eq_value_iff.mpr about, given_eq_value_iff.mpr named, given_eq_value_iff.mpr addressed,
    roles]
  exact Reading.value_seq_ofField _ _ _

/-- The roles of a request, each of which has to be a text. -/
def UserRequest.rolesOf (items : List Json) : Except BackendError (List String) :=
  (items.mapM Decoder.string).mapError fun error => .invalidArgument error.message

namespace UserRequest

theorem map_decodeArguments_of_roles {α : Type} {decode : Decoder Json α} {make : List String → α}
    (decoded : decode (.object arguments) = (items.mapM Decoder.string).map make)
    (wrap : α → UserRequest) :
    wrap <$> decodeArguments decode arguments = (rolesOf items).map fun roles => wrap (make roles) := by
  rw [decodeArguments, decoded, rolesOf]
  cases items.mapM Decoder.string <;> rfl

theorem ofCall_create {name email : String} (named : TextAt arguments "name" name)
    (addressed : TextAt arguments "email" email)
    (given : Members.find? arguments "roles" = some (.array items)) :
    ofCall "CreateUser" arguments =
      (rolesOf items).map fun roles => .create ⟨name, email, roles⟩ := by
  rw [ofCall, if_pos rfl]
  exact map_decodeArguments_of_roles
    (CreateUserRequest.decode_of_roles named addressed given) _

theorem ofCall_update {id : String} {name email : Option String}
    (about : TextAt arguments "id" id) (named : GivenAt arguments "name" name)
    (addressed : GivenAt arguments "email" email)
    (given : Members.find? arguments "roles" = some (.array items)) :
    ofCall "UpdateUser" arguments =
      (rolesOf items).map fun roles => .update ⟨id, name, email, roles⟩ := by
  rw [ofCall, if_neg (by decide), if_pos rfl]
  exact map_decodeArguments_of_roles
    (UpdateUserRequest.decode_of_roles about named addressed given) _

theorem ofCall_get {id : String} (about : TextAt arguments "id" id) :
    ofCall "GetUser" arguments = .ok (.get ⟨id⟩) :=
  @ofCall_eq_ok_iff ⟨"GetUser", arguments⟩ (.get ⟨id⟩) |>.mpr (.get rfl about)

theorem exists_message_of_decodeArguments {α : Type} {decode : Decoder Json α}
    {wrap : α → UserRequest} {error : BackendError}
    (refused : wrap <$> decodeArguments decode arguments = .error error) :
    ∃ message, error = .invalidArgument message := by
  rw [decodeArguments] at refused
  cases read : decode (.object arguments) with
  | error cause =>
    rw [read] at refused
    exact ⟨cause.message, (Except.error.inj refused).symm⟩
  | ok request =>
    rw [read] at refused
    cases refused

/-- A call of a method of the service that makes no request is the caller's mistake. -/
theorem exists_message_of_ofCall {method : String} {error : BackendError}
    (served : method ∈ ["CreateUser", "UpdateUser", "GetUser"])
    (refused : ofCall method arguments = .error error) :
    ∃ message, error = .invalidArgument message := by
  rw [ofCall] at refused
  split at refused
  · exact exists_message_of_decodeArguments refused
  split at refused
  · exact exists_message_of_decodeArguments refused
  split at refused
  · exact exists_message_of_decodeArguments refused
  next creates updates gets => simp [creates, updates, gets] at served

end UserRequest

end

namespace UserCall

/-- Whether a call makes a request for a new user. -/
def creates (call : UserCall) : Bool :=
  match UserRequest.ofCall call.method call.arguments with
  | .ok request => request.isCreate
  | .error _ => false

theorem Asks.creates_eq {call : UserCall} {request : UserRequest} (asks : call.Asks request) :
    call.creates = request.isCreate := by
  rw [creates, UserRequest.ofCall_eq_ok_iff.mpr asks]

theorem creates_of_refused {call : UserCall} {error : BackendError}
    (refused : UserRequest.ofCall call.method call.arguments = .error error) :
    call.creates = false := by
  rw [creates, refused]

/-- Every call either makes a request or is refused. -/
theorem asks_or_refused (call : UserCall) : (∃ request, call.Asks request) ∨
    ∃ error, UserRequest.ofCall call.method call.arguments = .error error := by
  cases decoded : UserRequest.ofCall call.method call.arguments with
  | error error => exact .inr ⟨error, rfl⟩
  | ok request => exact .inl ⟨request, UserRequest.ofCall_eq_ok_iff.mp decoded⟩

end UserCall

end ToolGateway
