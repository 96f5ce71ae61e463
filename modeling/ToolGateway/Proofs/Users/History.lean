import ToolGateway.Proofs.Users.Runs

/-!
# Reading one's writes

Which user an id stands for can be told from the calls alone: the call that produced the id gives
the user, and for each field the last later update that gives it counts. `read_your_writes` says that
this is the user that is read, whatever other calls there were.
-/

namespace ToolGateway

/-- The roles that an update gives; an empty list gives none. -/
def UpdateUserRequest.newRoles? (request : UpdateUserRequest) : Option (List String) :=
  if request.roles = [] then none else some request.roles

namespace UserCall

/-- The update of the user `id` that a call asks for, if it asks for one. -/
def updateOf? (id : String) (call : UserCall) : Option UpdateUserRequest :=
  match UserRequest.ofCall call.method call.arguments with
  | .ok (.update request) => if request.id = id then some request else none
  | _ => none

theorem updateOf?_eq_some_iff {id : String} {call : UserCall} {request : UpdateUserRequest} :
    call.updateOf? id = some request ↔ call.Asks (.update request) ∧ request.id = id := by
  rw [← UserRequest.ofCall_eq_ok_iff, updateOf?]
  cases UserRequest.ofCall call.method call.arguments with
  | error error => simp
  | ok asked =>
    cases asked with
    | update other =>
      simp only [Option.ite_none_right_eq_some, Option.some.injEq, Except.ok.injEq,
        UserRequest.update.injEq]
      constructor
      · rintro ⟨same, rfl⟩
        exact ⟨rfl, same⟩
      · rintro ⟨rfl, same⟩
        exact ⟨same, rfl⟩
    | create other => simp
    | get other => simp

/-- What the last update of the user `id` among the calls gives that gives anything, or else the
initial value. -/
def latest {α : Type} (id : String) (given : UpdateUserRequest → Option α) (initial : α)
    (calls : List UserCall) : α :=
  (calls.filterMap fun call => (call.updateOf? id).bind given).getLast?.getD initial

variable {α : Type} {id : String} {given : UpdateUserRequest → Option α} {initial : α}

theorem latest_concat (calls : List UserCall) (call : UserCall) :
    latest id given initial (calls ++ [call]) =
      ((call.updateOf? id).bind given).getD (latest id given initial calls) := by
  rw [latest, List.filterMap_append]
  cases gives : (call.updateOf? id).bind given with
  | none => simp [gives, latest]
  | some value => simp [gives]

end UserCall

namespace UserStore

open UserCall

variable {ids : Nat → String}

/-- A user of the id `id` after calls that came later. -/
def followed (id : String) (user : User) (later : List UserCall) : User :=
  ⟨user.id, latest id (·.name) user.name later, latest id (·.email) user.email later,
    latest id (·.newRoles?) user.roles later, user.status⟩

theorem changed_eq (request : UpdateUserRequest) (user : User) :
    changed request user = ⟨user.id, request.name.getD user.name, request.email.getD user.email,
      request.newRoles?.getD user.roles, user.status⟩ := by
  rw [changed, UpdateUserRequest.newRoles?]
  cases request.roles <;> rfl

theorem followed_concat (id : String) (user : User) (later : List UserCall) (call : UserCall) :
    followed id user (later ++ [call]) =
      (call.updateOf? id).elim (followed id user later) fun request =>
        changed request (followed id user later) := by
  simp only [followed, latest_concat]
  cases call.updateOf? id with
  | none => rfl
  | some request => exact (changed_eq request (followed id user later)).symm

/-! ## What one call changes -/

/-- A user that is found stays there, and only an update of its id changes it. -/
theorem find?_answer {store : UserStore} {id : String} {user : User}
    (found : store.find? id = some user) (call : UserCall) :
    (answer ids call store).2.find? id =
      some ((call.updateOf? id).elim user fun request => changed request user) := by
  cases updates : call.updateOf? id with
  | some request =>
    obtain ⟨asks, rfl⟩ := updateOf?_eq_some_iff.mp updates
    rw [answer_of_asks asks, perform_update, find?_update, if_pos rfl, found]
    rfl
  | none =>
    rcases call.asks_or_refused with ⟨request, asks⟩ | ⟨error, refused⟩
    · rw [answer_of_asks asks]
      cases request with
      | create request =>
        rw [perform_create, find?_create, found]
        rfl
      | update request =>
        have other : id ≠ request.id := by
          rintro rfl
          rw [updateOf?_eq_some_iff.mpr ⟨asks, rfl⟩] at updates
          cases updates
        rw [perform_update, find?_update, if_neg other, found]
        rfl
      | get request => exact found
    · rw [answer_of_refused refused]
      exact found

/-- A user that is found stays there and follows the calls. -/
theorem find?_after_append {calls : List UserCall} {id : String} {user : User}
    (found : (after ids calls).find? id = some user) (later : List UserCall) :
    (after ids (calls ++ later)).find? id = some (followed id user later) := by
  induction later using List.reverseRecOn with
  | nil =>
    rw [List.append_nil]
    exact found
  | append_singleton later call ih =>
    rw [← List.append_assoc, after_concat, find?_answer ih, followed_concat]

/-! ## Reading back -/

/-- A new user of an id that no user has is found. -/
theorem find?_after_create {calls : List UserCall} {call : UserCall} {request : CreateUserRequest}
    (asks : call.Asks (.create request)) (distinct : (givenIds ids (calls ++ [call])).Nodup) :
    (after ids (calls ++ [call])).find? (ids (created calls)) =
      some (newUser (ids (created calls)) request) := by
  have fresh : (after ids calls).find? (ids (created calls)) = none := by
    rw [givenIds_concat, asks.creates_eq, List.nodup_append] at distinct
    rw [find?_eq_none_iff, storedIds_after]
    intro given
    exact distinct.2.2 _ given _ (List.mem_singleton_self _) rfl
  rw [after_concat, answer_of_asks asks, size_after, perform_create, find?_create, fresh,
    if_pos rfl, Option.none_or]

/-- The user that a call for a new one produced, after the calls that came later. -/
theorem find?_after {before later : List UserCall} {creation : UserCall}
    {request : CreateUserRequest} (asks : creation.Asks (.create request))
    (distinct : (givenIds ids (before ++ creation :: later)).Nodup) :
    (after ids (before ++ creation :: later)).find? (ids (created before)) =
      some (followed (ids (created before)) (newUser (ids (created before)) request) later) := by
  rw [List.append_cons] at distinct ⊢
  rw [givenIds_append] at distinct
  have found := find?_after_create asks (List.nodup_append.mp distinct).1
  exact find?_after_append found later

/-- An id that a call for a new user produced, with the request of that call and the calls that came
later. -/
def Produced (ids : Nat → String) (calls : List UserCall) (id : String)
    (request : CreateUserRequest) (later : List UserCall) : Prop :=
  ∃ before creation, calls = before ++ creation :: later ∧ creation.Asks (.create request) ∧
    ids (created before) = id

theorem exists_produced_of_mem {calls : List UserCall} {id : String}
    (given : id ∈ givenIds ids calls) : ∃ request later, Produced ids calls id request later := by
  induction calls using List.reverseRecOn with
  | nil => cases given
  | append_singleton calls call ih =>
    rw [givenIds_concat, List.mem_append] at given
    rcases given with given | given
    · obtain ⟨request, later, before, creation, rfl, asks, same⟩ := ih given
      exact ⟨request, later ++ [call], before, creation, by simp, asks, same⟩
    · rcases call.asks_or_refused with ⟨request, asks⟩ | ⟨error, refused⟩
      · rw [asks.creates_eq] at given
        cases request with
        | create request =>
          exact ⟨request, [], calls, call, rfl, asks, (List.mem_singleton.mp given).symm⟩
        | update request => cases given
        | get request => cases given
      · rw [creates_of_refused refused] at given
        cases given

/-- A user is read as it was created and since updated, an id that no call produced is not found,
and a call that creates or updates a user replies what is read right after. -/
theorem read_your_writes {ids : Nat → String} {calls : List UserCall}
    (distinct : (givenIds ids calls).Nodup) :
    (∀ get id, get.Asks (.get ⟨id⟩) →
      (∀ request later, Produced ids calls id request later →
        reply ids calls get = .ok (UserResponse.mk
          ⟨id, latest id (·.name) request.name later, latest id (·.email) request.email later,
            latest id (·.newRoles?) request.roles later, .active⟩).toJson) ∧
      ((∀ request later, ¬ Produced ids calls id request later) →
        reply ids calls get = .error (.domain "NOT_FOUND" ("User " ++ id ++ " not found")))) ∧
    ∀ before last, calls = before ++ [last] →
      (∀ request, last.Asks (.create request) →
        reply ids before last = .ok (UserResponse.mk
          ⟨ids (created before), request.name, request.email, request.roles, .active⟩).toJson ∧
        ∀ get, get.Asks (.get ⟨ids (created before)⟩) →
          reply ids calls get = reply ids before last) ∧
      ∀ request get, last.Asks (.update request) → get.Asks (.get ⟨request.id⟩) →
        reply ids calls get = reply ids before last := by
  constructor
  · intro get id gets
    rw [reply_of_get gets, UserStore.get]
    constructor
    · rintro request later ⟨before, creation, rfl, asks, rfl⟩
      rw [find?_after asks distinct]
      rfl
    · intro unproduced
      have absent : (after ids calls).find? id = none := by
        rw [find?_eq_none_iff, storedIds_after]
        intro given
        obtain ⟨request, later, produced⟩ := exists_produced_of_mem given
        exact unproduced request later produced
      rw [absent]
      rfl
  · rintro before last rfl
    constructor
    · intro request asks
      have replied : reply ids before last = shown (.ok (newUser (ids (created before)) request)) := by
        rw [reply, answer_of_asks asks, size_after, perform_create]
      refine ⟨replied, ?_⟩
      intro get gets
      rw [replied, reply_of_get gets, UserStore.get, find?_after_create asks distinct]
    · intro request get asks gets
      rw [reply_of_get gets, reply, after_concat, answer_of_asks asks, perform_update]
      exact (congrArg shown (update_fst (after ids before) request)).symm

/-- Ann is created and gets an email; then Bob is created, and Ann is read. -/
theorem read_your_writes_renamed :
    reply (fun n => ["ann", "bob"].getD n "") [
        ⟨"CreateUser", [("name", .string "Ann"), ("roles", .strings ["admin"])]⟩,
        ⟨"UpdateUser", [("id", .string "ann"), ("name", .null), ("email", .string "ann@b.org")]⟩,
        ⟨"CreateUser", [("name", .string "Bob")]⟩] ⟨"GetUser", [("id", .string "ann")]⟩ =
      .ok (UserResponse.mk ⟨"ann", "Ann", "ann@b.org", ["admin"], .active⟩).toJson := by
  have asks : UserCall.Asks ⟨"GetUser", [("id", .string "ann")]⟩ (.get ⟨"ann"⟩) :=
    .get rfl (.inl rfl)
  have creates : UserCall.Asks ⟨"CreateUser", [("name", .string "Ann"), ("roles", .strings ["admin"])]⟩
      (.create ⟨"Ann", "", ["admin"]⟩) := .create rfl (.inl rfl) (.inr ⟨rfl, rfl⟩) (.inl rfl)
  exact ((read_your_writes (by decide)).1 _ _ asks).1 _ _ ⟨[], _, rfl, creates, rfl⟩

end UserStore

end ToolGateway
