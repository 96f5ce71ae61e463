import ToolGateway.Proofs.Except
import ToolGateway.Proofs.Gateway.Marshalling
import ToolGateway.Proofs.Gateway.Misfits
import ToolGateway.Proofs.Service.Listing
import ToolGateway.Proofs.Users.Runs
import ToolGateway.Users.Definition

/-!
# The methods of the user service as tools

What a request of the user service has to look like is said in two places. The definition of the
service, which is what the text of its file is read as (`ofText_userDefinitionText`), gives the fields
of each method, and the gateway checks the arguments of a call against them; the typed requests say
what the service can read. The two differ in one point: the definition asks for an array of roles, the
requests for an array of texts. So of the calls that the gateway lets pass, the service fails to read
exactly those with a role that is no text (`dispatch_userTools`).
-/

namespace ToolGateway

open UserCall (TextAt GivenAt MemberIs)

/-! ## Arguments that fit a method -/

namespace Method.Fits

variable {method : Method} {arguments : Json.Object} {name : String}

/-- A required field is there and of its kind. -/
theorem exists_value {kind : FieldKind} (fits : method.Fits arguments)
    (field : Field.ofKind name kind ∈ method.fields) (required : method.isRequired name = true) :
    ∃ value, Members.find? arguments name = some value ∧ kind.accepts value = true := by
  obtain ⟨present, kinds⟩ := fits _ field
  obtain ⟨value, found⟩ := Option.isSome_iff_exists.mp (present required)
  exact ⟨value, found, kinds value found⟩

theorem exists_text (fits : method.Fits arguments) (field : Field.ofKind name .string ∈ method.fields)
    (required : method.isRequired name = true) :
    ∃ text, Members.find? arguments name = some (.string text) := by
  obtain ⟨value, found, accepted⟩ := fits.exists_value field required
  cases value with
  | string text => exact ⟨text, found⟩
  | _ => cases accepted

theorem exists_items (fits : method.Fits arguments) (field : Field.ofKind name .array ∈ method.fields)
    (required : method.isRequired name = true) :
    ∃ items, Members.find? arguments name = some (.array items) := by
  obtain ⟨value, found, accepted⟩ := fits.exists_value field required
  cases value with
  | array items => exact ⟨items, found⟩
  | _ => cases accepted

/-- A text that need not be there. -/
theorem exists_given (fits : method.Fits arguments)
    (field : Field.ofKind name .string ∈ method.fields) : ∃ text, GivenAt arguments name text := by
  cases found : Members.find? arguments name with
  | none => exact ⟨none, .inr ⟨found, rfl⟩⟩
  | some value =>
    have accepted := (fits _ field).2 value found
    cases value with
    | string text => exact ⟨some text, .inl found⟩
    | _ => cases accepted

end Method.Fits

/-! ## The methods -/

/-- The method for new users, as it is resolved from the definition. -/
def createUserMethod : Method where
  name := "CreateUser"
  description := ""
  fields := [.ofKind "name" .string, .ofKind "email" .string, .ofKind "roles" .array]
  required := .ofList ["name", "email", "roles"]
  inputType := some "CreateUserRequest"
  outputType := some "CreateUserResponse"

def updateUserMethod : Method where
  name := "UpdateUser"
  description := ""
  fields := [.ofKind "id" .string, .ofKind "name" .string, .ofKind "email" .string,
    .ofKind "roles" .array]
  required := .ofList ["id", "roles"]
  inputType := some "UpdateUserRequest"
  outputType := some "UpdateUserResponse"

def getUserMethod : Method where
  name := "GetUser"
  description := ""
  fields := [.ofKind "id" .string]
  required := .ofList ["id"]
  inputType := some "GetUserRequest"
  outputType := some "GetUserResponse"

def userService : ServiceDefinition where
  package := "example.v1"
  name := "UserService"
  methods := [createUserMethod, updateUserMethod, getUserMethod]
  messages := userDefinitionFile.messages.map MessageEntry.message

theorem userDefinition_eq : userDefinition = .ok userService := rfl

theorem toList_userDefinitionText : userDefinitionText.toList =
    userDefinitionLines.flatMap fun line => line.toList ++ ['\n'] := by
  rw [userDefinitionText, String.toList_join, List.flatMap_map]
  refine List.flatMap_congr ?_
  intro line _
  exact String.toList_append

/-- The text of the definition holds the file. -/
theorem document_userDefinitionText : ∃ document, Toml.read? userDefinitionText = some document ∧
    DefinitionFile.decode (.table document) = .ok userDefinitionFile := by
  apply DefinitionFile.exists_document
  unfold Toml.read?
  rw [toList_userDefinitionText, userDefinitionLines]
  simp only [List.flatMap_cons, List.flatMap_nil]
  -- evaluation decodes the bytes of a string literal one by one, so the characters are put in first
  repeat rw [String.toList_ofList]
  decide +kernel

/-- The definition of the user service is what its text is read as. -/
theorem ofText_userDefinitionText : ServiceDefinition.ofText userDefinitionText = userDefinition := by
  obtain ⟨document, read, decoded⟩ := document_userDefinitionText
  rw [userDefinition_eq]
  exact ServiceDefinition.ofText_eq_ok_iff.mpr
    ⟨document, userDefinitionFile, read, decoded, userDefinition_eq⟩

theorem mem_userMethods_iff {method : Method} : method ∈ userService.methods ↔
    method = createUserMethod ∨ method = updateUserMethod ∨ method = getUserMethod := by
  simp [userService]

/-! ## What the service reads -/

namespace UserCall

/-- Some of the roles is no text. -/
def StrayRole (arguments : Json.Object) : Prop :=
  ∃ items, Members.find? arguments "roles" = some (.array items) ∧
    ∃ item ∈ items, ∀ text, item ≠ .string text

/-- What the service reads in the arguments of a method, but for roles that are no texts. -/
inductive Reads (arguments : Json.Object) : Method → Except BackendError UserRequest → Prop where
  | create {name email : String} {items : List Json} (named : TextAt arguments "name" name)
      (addressed : TextAt arguments "email" email)
      (given : Members.find? arguments "roles" = some (.array items)) :
      Reads arguments createUserMethod
        ((UserRequest.rolesOf items).map fun roles => .create ⟨name, email, roles⟩)
  | update {id : String} {name email : Option String} {items : List Json}
      (about : Members.find? arguments "id" = some (.string id))
      (named : GivenAt arguments "name" name) (addressed : GivenAt arguments "email" email)
      (given : Members.find? arguments "roles" = some (.array items)) :
      Reads arguments updateUserMethod
        ((UserRequest.rolesOf items).map fun roles => .update ⟨id, name, email, roles⟩)
  | get {id : String} (about : Members.find? arguments "id" = some (.string id)) :
      Reads arguments getUserMethod (.ok (.get ⟨id⟩))

variable {arguments request : Json.Object} {method : Method} {read : Except BackendError UserRequest}

theorem Reads.ofCall_eq (reads : Reads arguments method read) :
    UserRequest.ofCall method.name arguments = read := by
  cases reads with
  | create named addressed given => exact UserRequest.ofCall_create named addressed given
  | update about named addressed given =>
    exact UserRequest.ofCall_update (.inl about) named addressed given
  | get about => exact UserRequest.ofCall_get (.inl about)

theorem MemberIs.of_same {α : Type} {toJson : α → Json} {absent value : α} {name : String}
    (same : Members.find? request name = Members.find? arguments name)
    (given : MemberIs toJson absent arguments name value) :
    MemberIs toJson absent request name value := by
  rw [MemberIs, same]
  exact given

/-- The service reads the same in two objects that agree on the fields of the method. -/
theorem Reads.of_same (reads : Reads arguments method read) (same : ∀ field ∈ method.fields,
    Members.find? request field.name = Members.find? arguments field.name) :
    Reads request method read := by
  cases reads with
  | create named addressed given =>
    exact .create (named.of_same (same _ (.head _)))
      (addressed.of_same (same _ (.tail _ (.head _))))
      ((same _ (.tail _ (.tail _ (.head _)))).trans given)
  | update about named addressed given =>
    exact .update ((same _ (.head _)).trans about) (named.of_same (same _ (.tail _ (.head _))))
      (addressed.of_same (same _ (.tail _ (.tail _ (.head _)))))
      ((same _ (.tail _ (.tail _ (.tail _ (.head _))))).trans given)
  | get about => exact .get ((same _ (.head _)).trans about)

theorem exists_reads_of_fits (served : method ∈ userService.methods)
    (fits : method.Fits arguments) : ∃ read, Reads arguments method read := by
  rcases mem_userMethods_iff.mp served with rfl | rfl | rfl
  · obtain ⟨name, named⟩ := fits.exists_text (.head _) rfl
    obtain ⟨email, addressed⟩ := fits.exists_text (.tail _ (.head _)) rfl
    obtain ⟨items, given⟩ := fits.exists_items (.tail _ (.tail _ (.head _))) rfl
    exact ⟨_, .create (.inl named) (.inl addressed) given⟩
  · obtain ⟨id, about⟩ := fits.exists_text (.head _) rfl
    obtain ⟨name, named⟩ := fits.exists_given (.tail _ (.head _))
    obtain ⟨email, addressed⟩ := fits.exists_given (.tail _ (.tail _ (.head _)))
    obtain ⟨items, given⟩ := fits.exists_items (.tail _ (.tail _ (.tail _ (.head _)))) rfl
    exact ⟨_, .update about named addressed given⟩
  · obtain ⟨id, about⟩ := fits.exists_text (.head _) rfl
    exact ⟨_, .get about⟩

end UserCall

open UserCall (StrayRole Reads)

theorem rolesOf_cases {arguments : Json.Object} {items : List Json}
    (given : Members.find? arguments "roles" = some (.array items)) :
    (StrayRole arguments ∧
        ∃ message, UserRequest.rolesOf items = .error (.invalidArgument message)) ∨
      (¬ StrayRole arguments ∧ ∃ roles, UserRequest.rolesOf items = .ok roles) := by
  by_cases texts : ∃ roles : List String, items = roles.map .string
  · obtain ⟨roles, rfl⟩ := texts
    refine .inr ⟨?_, roles, ?_⟩
    · rintro ⟨items, found, item, member, other⟩
      obtain rfl := Json.array.inj (Option.some.inj (given.symm.trans found))
      obtain ⟨text, -, rfl⟩ := List.mem_map.mp member
      exact other text rfl
    · exact mapError_eq_ok_iff.mpr (Decoder.mapM_string_eq_ok_iff.mpr rfl)
  · refine .inl ⟨⟨items, given, ?_⟩, ?_⟩
    · by_contra every
      push Not at every
      exact texts (Decoder.exists_eq_map_string every)
    · rw [UserRequest.rolesOf]
      cases read : (items.mapM Decoder.string : Except DecodeError _) with
      | error error => exact ⟨_, rfl⟩
      | ok roles => exact absurd ⟨roles, Decoder.mapM_string_eq_ok_iff.mp read⟩ texts

namespace UserStore

/-- Whether the service cannot read the arguments of a method. -/
def Unreadable (method : String) (arguments : Json.Object) : Prop :=
  (method = "CreateUser" ∨ method = "UpdateUser") ∧ StrayRole arguments

/-- How a call of the user service ends whose arguments the gateway has let pass. -/
structure Answered (ids : Nat → String) (store : UserStore) (method : String)
    (arguments : Json.Object) (result : Except GatewayError Json) : Prop where
  misread : (∃ message, result = .error (.backendDomain "INVALID_ARGUMENT" message)) ↔
    Unreadable method arguments
  created : method = "CreateUser" → ¬ Unreadable method arguments →
    ∃ user, user.id = ids store.size ∧ result = .ok (UserResponse.mk user).toJson
  addressed : method = "UpdateUser" ∨ method = "GetUser" → ¬ Unreadable method arguments →
    ∃ id, Members.find? arguments "id" = some (.string id) ∧
      (id ∈ store.storedIds →
        ∃ user, user.id = id ∧ result = .ok (UserResponse.mk user).toJson) ∧
      (id ∉ store.storedIds →
        result = .error (.backendDomain "NOT_FOUND" ("User " ++ id ++ " not found")))

/-- What the caller of a tool gets to see of a result. -/
def told (result : Except BackendError User) : Except GatewayError Json :=
  (shown result).mapError .ofBackend

variable {ids : Nat → String} {store : UserStore} {method : String} {arguments : Json.Object}

theorem Answered.of_unreadable (unreadable : Unreadable method arguments) (message : String) :
    Answered ids store method arguments (told (.error (.invalidArgument message))) where
  misread := iff_of_true ⟨message, rfl⟩ unreadable
  created _ readable := absurd unreadable readable
  addressed _ readable := absurd unreadable readable

theorem Answered.of_created (called : method = "CreateUser")
    (readable : ¬ Unreadable method arguments) {user : User} (given : user.id = ids store.size) :
    Answered ids store method arguments (told (.ok user)) where
  misread := iff_of_false (fun ⟨message, refused⟩ => by cases refused) readable
  created _ _ := ⟨user, given, rfl⟩
  addressed other := by simp [called] at other

/-- The answer about the user of an id, after a change that leaves the id alone. -/
theorem Answered.of_addressed (called : method ≠ "CreateUser")
    (readable : ¬ Unreadable method arguments) {id : String}
    (about : Members.find? arguments "id" = some (.string id)) {result : Except BackendError User}
    (found : ∀ user, store.find? id = some user →
      ∃ changed : User, changed.id = user.id ∧ result = .ok changed)
    (unfound : store.find? id = none → result = .error (notFound id)) :
    Answered ids store method arguments (told result) := by
  cases held : store.find? id with
  | none =>
    have absent := find?_eq_none_iff.mp held
    have refused : told result = .error (.backendDomain "NOT_FOUND" ("User " ++ id ++ " not found")) := by
      rw [unfound held]
      rfl
    rw [refused]
    refine ⟨iff_of_false ?_ readable, fun create => absurd create called, fun _ _ => ?_⟩
    · rintro ⟨message, other⟩
      simp at other
    · exact ⟨id, about, fun stored => absurd stored absent, fun _ => rfl⟩
  | some user =>
    obtain ⟨changed, keeps, rfl⟩ := found user held
    have same : user.id = id := by simpa using List.find?_some held
    have stored : id ∈ store.storedIds :=
      List.mem_map.mpr ⟨user, List.mem_of_find?_eq_some held, same⟩
    refine ⟨iff_of_false ?_ readable, fun create => absurd create called, fun _ _ => ?_⟩
    · rintro ⟨message, other⟩
      cases other
    · exact ⟨id, about, fun _ => ⟨changed, keeps.trans same, rfl⟩,
        fun absent => absurd stored absent⟩

theorem answered_of_reads {method : Method} {request : Json.Object}
    {read : Except BackendError UserRequest} (reads : Reads arguments method read)
    (called : UserRequest.ofCall method.name request = read) :
    Answered ids store method.name arguments
      ((store.invoke ids method.name request).1.mapError .ofBackend) := by
  rw [invoke, called]
  cases reads with
  | create named addressed given =>
    rcases rolesOf_cases given with ⟨stray, message, read⟩ | ⟨texts, roles, read⟩
    · rw [read]
      exact .of_unreadable ⟨.inl rfl, stray⟩ message
    · rw [read]
      exact .of_created rfl (fun unreadable => texts unreadable.2) rfl
  | @update id name email items about named addressed given =>
    rcases rolesOf_cases given with ⟨stray, message, read⟩ | ⟨texts, roles, read⟩
    · rw [read]
      exact .of_unreadable ⟨.inr rfl, stray⟩ message
    · rw [read]
      refine .of_addressed (by decide) (fun unreadable => texts unreadable.2) about ?_ ?_
      · intro user held
        refine ⟨changed ⟨id, name, email, roles⟩ user, rfl, ?_⟩
        simp only [held]
      · intro held
        simp only [held]
  | @get id about =>
    refine .of_addressed (by decide) (fun unreadable => ?_) about ?_ ?_
    · simp [Unreadable, getUserMethod] at unreadable
    · intro user held
      refine ⟨user, rfl, ?_⟩
      rw [perform_get, get, held]
    · intro held
      rw [perform_get, get, held]

end UserStore

/-! ## Calls through the gateway -/

namespace UserStore

variable {ids : Nat → String} {store : UserStore} {method : Method} {request : Json.Object}

theorem exists_message_of_invoke (served : method ∈ userService.methods) {error : BackendError}
    (refused : (store.invoke ids method.name request).1 = .error error) :
    ∃ message, error = .invalidArgument message ∨ error = .notFound message := by
  have served : method.name ∈ ["CreateUser", "UpdateUser", "GetUser"] :=
    List.mem_map_of_mem (f := Method.name) served
  rw [invoke] at refused
  split at refused
  next cause misread =>
    obtain rfl := Except.error.inj refused
    obtain ⟨message, rfl⟩ := UserRequest.exists_message_of_ofCall served misread
    exact ⟨message, .inl rfl⟩
  next asked decoded =>
    cases answered : (store.perform (ids store.size) asked).1 with
    | error cause =>
      simp only [answered] at refused
      obtain rfl := Except.error.inj refused
      exact ⟨_, .inr (eq_notFound_of_perform answered)⟩
    | ok user =>
      simp only [answered] at refused
      cases refused

theorem invoke_of_same {name : String} {other : Json.Object}
    (same : UserRequest.ofCall name other = UserRequest.ofCall name request) :
    store.invoke ids name other = store.invoke ids name request := by
  rw [invoke, invoke, same]

end UserStore

/-- The tools of the user service. -/
def userCatalog : ToolCatalog where
  service := "UserService"
  tools := userService.methods.map (Tool.ofMethod "UserService")

theorem ofDefinition_userService : ToolCatalog.ofDefinition userService = .ok userCatalog := rfl

section

variable {ids : Nat → String} {store : UserStore} {tool : Tool}

/-- A call that the gateway lets pass is one call of the service. -/
theorem dispatch_userTool_of_takes (listed : tool ∈ userCatalog.tools) {arguments : Json}
    {members : Json.Object} (taken : tool.Takes arguments members) :
    userCatalog.dispatch (UserStore.backend ids) ⟨tool.name, arguments⟩ store =
      ((store.invoke ids tool.name (tool.marshal members)).1.mapError .ofBackend,
        (store.invoke ids tool.name (tool.marshal members)).2) := by
  have found := ToolCatalog.find?_of_mem ofDefinition_userService listed
  rw [ToolCatalog.dispatch_of_takes ⟨tool.name, arguments⟩ found taken]
  exact Prod.ext (GatewayError.ofOutcome_ofExcept _ _) rfl

/-- What the service reads in the arguments of a call, it reads in the request made from them. -/
theorem ofCall_marshal (tool : Tool) {method : Method} {read : Except BackendError UserRequest}
    {members others : Json.Object} (reads : Reads members method read)
    (differ : (Members.names others).Nodup) (same : ∀ field ∈ method.fields,
      Members.find? others field.name = Members.find? members field.name) :
    UserRequest.ofCall method.name (tool.marshal others) = read := by
  refine (reads.of_same ?_).ofCall_eq
  intro field member
  rw [tool.find?_marshal differ, same field member]

/-- Members that are no fields of the method make no difference to a call. -/
theorem dispatch_userTool_of_same (listed : tool ∈ userCatalog.tools) {members others : Json.Object}
    (differ : (Members.names members).Nodup) (differToo : (Members.names others).Nodup)
    (same : ∀ field ∈ tool.method.fields,
      Members.find? others field.name = Members.find? members field.name) :
    userCatalog.dispatch (UserStore.backend ids) ⟨tool.name, .object others⟩ store =
      userCatalog.dispatch (UserStore.backend ids) ⟨tool.name, .object members⟩ store := by
  have checked := Tool.validate_of_same same
  cases valid : tool.validate members with
  | error error =>
    have found := ToolCatalog.find?_of_mem ofDefinition_userService listed
    rw [valid] at checked
    simp only [ToolCatalog.dispatch, found, Tool.argumentObject, checked, valid]
  | ok =>
    have fits := Tool.validate_eq_ok_iff.mp valid
    have fitsToo := Tool.validate_eq_ok_iff.mp (checked.trans valid)
    rw [dispatch_userTool_of_takes listed ⟨rfl, fitsToo⟩,
      dispatch_userTool_of_takes listed ⟨rfl, fits⟩]
    obtain ⟨method, served, rfl⟩ := List.mem_map.mp listed
    obtain ⟨read, reads⟩ := UserCall.exists_reads_of_fits served fits
    have sent : UserRequest.ofCall method.name _ = read :=
      ofCall_marshal (Tool.ofMethod "UserService" method) reads differ fun _ _ => rfl
    have sentToo : UserRequest.ofCall method.name _ = read :=
      ofCall_marshal (Tool.ofMethod "UserService" method) reads differToo same
    have answered : store.invoke ids method.name _ = store.invoke ids method.name _ :=
      UserStore.invoke_of_same (sentToo.trans sent.symm)
    exact congrArg (fun answer => (answer.1.mapError GatewayError.ofBackend, answer.2)) answered

end

/-- **The definition of the user service and its requests fit each other.** A call of one of the three
tools that the gateway lets pass is refused for its arguments exactly if it is one to create or update
a user with a role that is no text. Otherwise a user is created, or the user of the id is changed or
shown, or there is none of that id. No call finds a method missing or the service out of reach, and
members that are no fields of the method make no difference, whatever they are. An object names each
of its members once, and `Nodup` says so. -/
theorem dispatch_userTools (ids : Nat → String) (store : UserStore) :
    ∃ definition catalog, userDefinition = .ok definition ∧
      ToolCatalog.ofDefinition definition = .ok catalog ∧
      catalog.names = ["CreateUser", "UpdateUser", "GetUser"] ∧
      ∀ tool ∈ catalog.tools,
        let call (arguments : Json) :=
          catalog.dispatch (UserStore.backend ids) ⟨tool.name, arguments⟩ store
        (∀ arguments members, tool.Takes arguments members → (Members.names members).Nodup →
          UserStore.Answered ids store tool.name members (call arguments).1) ∧
        (∀ arguments error, (call arguments).1 = .error error →
          error.kind ≠ "UNIMPLEMENTED" ∧ error.kind ≠ "BACKEND_UNAVAILABLE") ∧
        ∀ members others, (Members.names members).Nodup → (Members.names others).Nodup →
          (∀ field ∈ tool.method.fields,
            Members.find? others field.name = Members.find? members field.name) →
          call (.object others) = call (.object members) := by
  refine ⟨userService, userCatalog, userDefinition_eq, ofDefinition_userService, rfl, ?_⟩
  intro tool listed call
  refine ⟨?_, ?_, ?_⟩
  · intro arguments members taken differ
    have called : call arguments = _ := dispatch_userTool_of_takes listed taken
    rw [called]
    obtain ⟨method, served, rfl⟩ := List.mem_map.mp listed
    obtain ⟨read, reads⟩ := UserCall.exists_reads_of_fits served taken.2
    have sent : UserRequest.ofCall method.name _ = read :=
      ofCall_marshal (Tool.ofMethod "UserService" method) reads differ fun _ _ => rfl
    have answered : UserStore.Answered ids store method.name members _ :=
      UserStore.answered_of_reads reads sent
    exact answered
  · intro arguments error failed
    by_cases taken : ∃ members, tool.Takes arguments members
    · obtain ⟨members, taken⟩ := taken
      have called : call arguments = _ := dispatch_userTool_of_takes listed taken
      rw [called] at failed
      obtain ⟨method, served, rfl⟩ := List.mem_map.mp listed
      obtain ⟨cause, refused, rfl⟩ := mapError_eq_error_iff.mp failed
      obtain ⟨message, rfl | rfl⟩ := UserStore.exists_message_of_invoke served refused
      · simp [GatewayError.ofBackend, BackendError.invalidArgument, GatewayError.kind]
      · simp [GatewayError.ofBackend, BackendError.notFound, GatewayError.kind]
    · have found := ToolCatalog.find?_of_mem ofDefinition_userService listed
      obtain ⟨field, message, refused⟩ := ToolCatalog.dispatch_of_not_takes ⟨tool.name, arguments⟩
        found (fun members takes => taken ⟨members, takes⟩) (UserStore.backend ids) store
      have same : call arguments = _ := refused
      rw [same] at failed
      obtain rfl := Except.error.inj failed
      simp [GatewayError.kind]
  · intro members others differ differToo same
    exact dispatch_userTool_of_same listed differ differToo same

/-- A role that is no text is refused by the service, not by the gateway, and a member that is no
field is not looked at. -/
theorem dispatch_userTools_strayRole : ∃ definition catalog, userDefinition = .ok definition ∧
    ToolCatalog.ofDefinition definition = .ok catalog ∧ ∃ message,
      (catalog.dispatch (UserStore.backend fun _ => "ann") ⟨"CreateUser", .object
        [("id", .null), ("roles", .array [.string "admin", .null]), ("email", .string ""),
          ("name", .string "Ann")]⟩ .empty).1 =
        .error (.backendDomain "INVALID_ARGUMENT" message) := by
  obtain ⟨definition, catalog, resolved, built, -, law⟩ :=
    dispatch_userTools (fun _ => "ann") UserStore.empty
  obtain rfl := Except.ok.inj (resolved.symm.trans userDefinition_eq)
  obtain rfl := Except.ok.inj (built.symm.trans ofDefinition_userService)
  refine ⟨_, _, resolved, built, ?_⟩
  have answered := (law _ (.head _)).1 (.object
    [("id", .null), ("roles", .array [.string "admin", .null]), ("email", .string ""),
      ("name", .string "Ann")]) _ ⟨rfl, Tool.validate_eq_ok_iff.mp rfl⟩ (by decide)
  exact answered.misread.mpr
    ⟨.inl rfl, _, rfl, .null, .tail _ (.head _), fun text same => by cases same⟩

end ToolGateway
