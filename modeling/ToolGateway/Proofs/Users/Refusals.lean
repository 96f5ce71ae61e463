import ToolGateway.Proofs.Users.Runs

/-!
# Why the user service refuses a call

A call is refused for one of three reasons, and the first one that applies decides: the method is not
one of the service, a member of the request is there with a value of the wrong form, or there is no
user of the id that the request is about. What the request declares is laid down in `memberForms`,
apart from the decoders, and `exists_asks_iff` says that these read just the calls that keep to it.
`invoke_settled` gives the reasons, and says that a call that is refused leaves the users alone.
-/

namespace ToolGateway

/-- What a member of a request may be. -/
inductive MemberForm where
  | text
  | textOrNull
  | texts
deriving DecidableEq

namespace MemberForm

/-- The values that a member of a form may have. -/
def Admits : MemberForm → Json → Prop
  | text, value => ∃ found, value = .string found
  | textOrNull, value => value = .null ∨ ∃ found, value = .string found
  | texts, value => ∃ items, value = .array items ∧ ∀ item ∈ items, ∃ found, item = .string found

/-- The member is absent or has a value of the form. -/
def AdmitsAt (form : MemberForm) (arguments : Json.Object) (name : String) : Prop :=
  ∀ value, Members.find? arguments name = some value → form.Admits value

end MemberForm

namespace UserCall

/-- The members that the request of a method declares, and their forms. -/
def memberForms (method : String) : List (String × MemberForm) :=
  if method = "CreateUser" then [("name", .text), ("email", .text), ("roles", .texts)]
  else if method = "UpdateUser" then
    [("id", .text), ("name", .textOrNull), ("email", .textOrNull), ("roles", .texts)]
  else if method = "GetUser" then [("id", .text)]
  else []

/-- Some member that the request declares is there with a value of another form. -/
def Mistyped (call : UserCall) : Prop :=
  ∃ member ∈ memberForms call.method, ∃ value,
    Members.find? call.arguments member.1 = some value ∧ ¬ member.2.Admits value

/-- The id that a request is about; one that is not given is empty. -/
def aboutId (arguments : Json.Object) : String :=
  ((Members.find? arguments "id").bind Json.asString?).getD ""

theorem not_mistyped_iff {call : UserCall} : ¬ call.Mistyped ↔
    ∀ member ∈ memberForms call.method, member.2.AdmitsAt call.arguments member.1 := by
  simp [Mistyped, MemberForm.AdmitsAt]

section

variable {arguments : Json.Object} {name : String}

/-- A member can be read exactly if it is absent or has the form of some value. -/
theorem exists_memberIs_iff {α : Type} {toJson : α → Json} {absent : α} :
    (∃ value, MemberIs toJson absent arguments name value) ↔
      ∀ given, Members.find? arguments name = some given → ∃ value, given = toJson value := by
  cases found : Members.find? arguments name with
  | none => simp [MemberIs, found]
  | some given => simp [MemberIs, found]

theorem exists_textAt_iff :
    (∃ text, TextAt arguments name text) ↔ MemberForm.text.AdmitsAt arguments name :=
  exists_memberIs_iff

theorem exists_givenAt_iff :
    (∃ text, GivenAt arguments name text) ↔ MemberForm.textOrNull.AdmitsAt arguments name := by
  have form : ∀ value, (∃ text, value = Json.ofString? text) ↔
      MemberForm.textOrNull.Admits value := by
    intro value
    constructor
    · rintro ⟨_ | text, rfl⟩
      · exact .inl rfl
      · exact .inr ⟨text, rfl⟩
    · rintro (rfl | ⟨text, rfl⟩)
      · exact ⟨none, rfl⟩
      · exact ⟨some text, rfl⟩
  simp only [GivenAt, exists_memberIs_iff, form, MemberForm.AdmitsAt]

theorem exists_textsAt_iff :
    (∃ texts, TextsAt arguments name texts) ↔ MemberForm.texts.AdmitsAt arguments name := by
  have form : ∀ value, (∃ texts, value = Json.strings texts) ↔ MemberForm.texts.Admits value := by
    intro value
    constructor
    · rintro ⟨texts, rfl⟩
      exact ⟨_, rfl, by simp⟩
    · rintro ⟨items, rfl, strings⟩
      obtain ⟨texts, rfl⟩ := Decoder.exists_eq_map_string strings
      exact ⟨texts, rfl⟩
  simp only [TextsAt, exists_memberIs_iff, form, MemberForm.AdmitsAt]

theorem TextAt.aboutId_eq {id : String} (about : TextAt arguments "id" id) :
    aboutId arguments = id := by
  rcases about with found | ⟨found, rfl⟩
  · rw [aboutId, found]
    rfl
  · rw [aboutId, found]
    rfl

end

/-- A call makes a request exactly if its method is one of the service and no member of the request
has the wrong form. -/
theorem exists_asks_iff {call : UserCall} : (∃ request, call.Asks request) ↔
    call.method ∈ ["CreateUser", "UpdateUser", "GetUser"] ∧ ¬ call.Mistyped := by
  obtain ⟨method, arguments⟩ := call
  have create : (∀ member ∈ memberForms "CreateUser", member.2.AdmitsAt arguments member.1) ↔
      (∃ name, TextAt arguments "name" name) ∧ (∃ email, TextAt arguments "email" email) ∧
        ∃ roles, TextsAt arguments "roles" roles := by
    simp [memberForms, exists_textAt_iff, exists_textsAt_iff]
  have update : (∀ member ∈ memberForms "UpdateUser", member.2.AdmitsAt arguments member.1) ↔
      (∃ id, TextAt arguments "id" id) ∧ (∃ name, GivenAt arguments "name" name) ∧
        (∃ email, GivenAt arguments "email" email) ∧ ∃ roles, TextsAt arguments "roles" roles := by
    simp [memberForms, exists_textAt_iff, exists_givenAt_iff, exists_textsAt_iff]
  have get : (∀ member ∈ memberForms "GetUser", member.2.AdmitsAt arguments member.1) ↔
      ∃ id, TextAt arguments "id" id := by
    simp [memberForms, exists_textAt_iff]
  rw [not_mistyped_iff]
  constructor
  · rintro ⟨request, asks⟩
    cases asks with
    | create called named addressed given =>
      obtain rfl : method = "CreateUser" := called
      exact ⟨by simp, create.mpr ⟨⟨_, named⟩, ⟨_, addressed⟩, ⟨_, given⟩⟩⟩
    | update called about named addressed given =>
      obtain rfl : method = "UpdateUser" := called
      exact ⟨by simp, update.mpr ⟨⟨_, about⟩, ⟨_, named⟩, ⟨_, addressed⟩, ⟨_, given⟩⟩⟩
    | get called about =>
      obtain rfl : method = "GetUser" := called
      exact ⟨by simp, get.mpr ⟨_, about⟩⟩
  · rintro ⟨served, typed⟩
    have methods : method = "CreateUser" ∨ method = "UpdateUser" ∨ method = "GetUser" := by
      simpa using served
    rcases methods with rfl | rfl | rfl
    · obtain ⟨⟨name, named⟩, ⟨email, addressed⟩, ⟨roles, given⟩⟩ := create.mp typed
      exact ⟨_, .create rfl named addressed given⟩
    · obtain ⟨⟨id, about⟩, ⟨name, named⟩, ⟨email, addressed⟩, ⟨roles, given⟩⟩ := update.mp typed
      exact ⟨_, .update rfl about named addressed given⟩
    · obtain ⟨id, about⟩ := get.mp typed
      exact ⟨_, .get rfl about⟩

end UserCall

namespace UserStore

open UserCall (Mistyped aboutId)

/-- How a call can end: with the users as they are for one of three reasons, or with a user. -/
inductive Ending (store : UserStore) (call : UserCall) :
    Except BackendError Json × UserStore → Prop where
  | unserved (other : call.method ∉ ["CreateUser", "UpdateUser", "GetUser"]) :
      Ending store call (.error (.unimplemented
        ("Method " ++ call.method ++ " is not implemented by UserService")), store)
  | mistyped {message : String} (served : call.method ∈ ["CreateUser", "UpdateUser", "GetUser"])
      (mistyped : call.Mistyped) : Ending store call (.error (.invalidArgument message), store)
  | unfound (called : call.method = "UpdateUser" ∨ call.method = "GetUser")
      (typed : ¬ call.Mistyped) (absent : aboutId call.arguments ∉ store.storedIds) :
      Ending store call (.error (notFound (aboutId call.arguments)), store)
  | done {user : User} {next : UserStore} (typed : ¬ call.Mistyped)
      (met : call.method = "CreateUser" ∨
        (call.method = "UpdateUser" ∨ call.method = "GetUser") ∧
          aboutId call.arguments ∈ store.storedIds) :
      Ending store call (.ok (UserResponse.mk user).toJson, next)

variable {ids : Nat → String} {store : UserStore} {call : UserCall}

/-- A call about an id ends by whether there is a user of that id. -/
theorem Ending.of_about (called : call.method = "UpdateUser" ∨ call.method = "GetUser")
    (typed : ¬ call.Mistyped) {id : String} (about : UserCall.TextAt call.arguments "id" id)
    {result : Except BackendError User} {next : UserStore}
    (found : ∀ user, store.find? id = some user → ∃ changed, result = .ok changed)
    (unfound : store.find? id = none → result = .error (notFound id) ∧ next = store) :
    Ending store call (shown result, next) := by
  have same := about.aboutId_eq
  subst same
  cases held : store.find? (aboutId call.arguments) with
  | none =>
    obtain ⟨rfl, rfl⟩ := unfound held
    exact .unfound called typed (find?_eq_none_iff.mp held)
  | some user =>
    obtain ⟨changed, rfl⟩ := found user held
    refine .done typed (.inr ⟨called, ?_⟩)
    by_contra absent
    rw [find?_eq_none_iff.mpr absent] at held
    cases held

theorem ending_answer (ids : Nat → String) (store : UserStore) (call : UserCall) :
    Ending store call (answer ids call store) := by
  rcases call.asks_or_refused with ⟨request, asks⟩ | ⟨error, refused⟩
  · have typed := (UserCall.exists_asks_iff.mp ⟨request, asks⟩).2
    rw [answer_of_asks asks]
    cases asks with
    | create called => exact .done typed (.inl called)
    | @update id name email roles called about =>
      refine .of_about (.inl called) typed about ?_ ?_
      · intro user held
        exact ⟨changed ⟨id, name, email, roles⟩ user, by simp only [perform_update, update, held]⟩
      · intro held
        simp only [perform_update, update, held, and_self]
    | get called about =>
      refine .of_about (.inr called) typed about ?_ ?_
      · intro user held
        exact ⟨user, by simp only [perform_get, get, held]⟩
      · intro held
        simp only [perform_get, get, held, and_self]
  · rw [answer_of_refused refused]
    by_cases served : call.method ∈ ["CreateUser", "UpdateUser", "GetUser"]
    · obtain ⟨message, rfl⟩ := UserRequest.exists_message_of_ofCall served refused
      refine .mistyped served ?_
      by_contra typed
      obtain ⟨request, asks⟩ := UserCall.exists_asks_iff.mpr ⟨served, typed⟩
      rw [UserRequest.ofCall_eq_ok_iff.mpr asks] at refused
      cases refused
    · have unserved := served
      simp only [List.mem_cons, List.not_mem_nil, or_false, not_or] at unserved
      rw [UserRequest.ofCall, if_neg unserved.1, if_neg unserved.2.1, if_neg unserved.2.2] at refused
      obtain rfl := Except.error.inj refused
      exact .unserved served

/-! ## The kinds of refusals -/

/-- The result is a refusal of this kind. -/
def RefusedAs (kind : String) (result : Except BackendError Json) : Prop :=
  ∃ message, result = .error (.domain kind message)

theorem refusedAs_error_iff {kind other message : String} :
    RefusedAs kind (.error (.domain other message)) ↔ other = kind := by
  simp [RefusedAs]

theorem not_refusedAs_ok {kind : String} {answer : Json} : ¬ RefusedAs kind (.ok answer) := by
  simp [RefusedAs]

namespace Ending

variable {result : Except BackendError Json} {next : UserStore}

theorem served_of_met (met : call.method = "CreateUser" ∨
    (call.method = "UpdateUser" ∨ call.method = "GetUser") ∧
      aboutId call.arguments ∈ store.storedIds) :
    call.method ∈ ["CreateUser", "UpdateUser", "GetUser"] := by
  rcases met with called | ⟨called | called, -⟩ <;> simp [called]

theorem unimplemented_iff (ending : Ending store call (result, next)) :
    RefusedAs "UNIMPLEMENTED" result ↔
      call.method ∉ ["CreateUser", "UpdateUser", "GetUser"] := by
  cases ending with
  | unserved other => exact iff_of_true (refusedAs_error_iff.mpr rfl) other
  | mistyped served =>
    refine iff_of_false ?_ (not_not_intro served)
    exact refusedAs_error_iff.not.mpr (by decide)
  | unfound called =>
    refine iff_of_false (refusedAs_error_iff.not.mpr (by decide)) (not_not_intro ?_)
    rcases called with called | called <;> simp [called]
  | done typed met => exact iff_of_false not_refusedAs_ok (not_not_intro (served_of_met met))

theorem invalidArgument_iff (ending : Ending store call (result, next))
    (served : call.method ∈ ["CreateUser", "UpdateUser", "GetUser"]) :
    RefusedAs "INVALID_ARGUMENT" result ↔ call.Mistyped := by
  cases ending with
  | unserved other => exact absurd served other
  | mistyped served mistyped => exact iff_of_true (refusedAs_error_iff.mpr rfl) mistyped
  | unfound called typed =>
    exact iff_of_false (refusedAs_error_iff.not.mpr (by decide)) typed
  | done typed => exact iff_of_false not_refusedAs_ok typed

/-- A call that its method can read ends by whether the user it is about is there. -/
theorem notFound_iff (ending : Ending store call (result, next))
    (served : call.method ∈ ["CreateUser", "UpdateUser", "GetUser"]) (typed : ¬ call.Mistyped) :
    (RefusedAs "NOT_FOUND" result ↔ (call.method = "UpdateUser" ∨ call.method = "GetUser") ∧
      aboutId call.arguments ∉ store.storedIds) ∧
    ((∃ user, result = .ok (UserResponse.mk user).toJson) ↔
      call.method = "CreateUser" ∨ aboutId call.arguments ∈ store.storedIds) := by
  cases ending with
  | unserved other => exact absurd served other
  | mistyped served mistyped => exact absurd mistyped typed
  | unfound called typed absent =>
    have other : call.method ≠ "CreateUser" := by
      rcases called with called | called <;> simp [called]
    refine ⟨iff_of_true (refusedAs_error_iff.mpr rfl) ⟨called, absent⟩, iff_of_false ?_ ?_⟩
    · rintro ⟨user, same⟩
      cases same
    · exact not_or.mpr ⟨other, absent⟩
  | done typed met =>
    refine ⟨iff_of_false not_refusedAs_ok ?_, iff_of_true ⟨_, rfl⟩ (met.imp_right And.right)⟩
    rintro ⟨about, absent⟩
    rcases met with called | ⟨-, stored⟩
    · simp [called] at about
    · exact absent stored

theorem store_eq {error : BackendError} (ending : Ending store call (.error error, next)) :
    next = store := by
  cases ending <;> rfl

end Ending

/-- **Why a call is refused.** A call is refused as unimplemented exactly if its method is not one of
the three. Else it is refused for its arguments exactly if some member that the request declares is
there with a value of the wrong form, whether or not there is a user of its id. Else a request about an
id, where one that is not given is empty, finds nothing exactly if no user has the id, and every other
call succeeds. A call that is refused leaves the users as they were. -/
theorem invoke_settled (ids : Nat → String) (store : UserStore) (method : String)
    (arguments : Json.Object) :
    let call : UserCall := ⟨method, arguments⟩
    let answer := store.invoke ids method arguments
    let served := method ∈ ["CreateUser", "UpdateUser", "GetUser"]
    (RefusedAs "UNIMPLEMENTED" answer.1 ↔ ¬ served) ∧
      (served → (RefusedAs "INVALID_ARGUMENT" answer.1 ↔ call.Mistyped)) ∧
      (served → ¬ call.Mistyped →
        (RefusedAs "NOT_FOUND" answer.1 ↔
          (method = "UpdateUser" ∨ method = "GetUser") ∧ aboutId arguments ∉ store.storedIds) ∧
        ((∃ user, answer.1 = .ok (UserResponse.mk user).toJson) ↔
          method = "CreateUser" ∨ aboutId arguments ∈ store.storedIds)) ∧
      ∀ error, answer.1 = .error error → answer.2 = store := by
  intro call answer served
  have ending : Ending store call (answer.1, answer.2) := ending_answer ids store call
  refine ⟨ending.unimplemented_iff, ending.invalidArgument_iff, ending.notFound_iff, ?_⟩
  intro error refused
  rw [refused] at ending
  exact ending.store_eq

end UserStore

end ToolGateway
