import ToolGateway.Users.Store

/-!
# Users found in a store

What is found under an id after a user was created or changed, and which ids there are. Both say
everything about a step that a run of calls needs to know.
-/

namespace ToolGateway.UserStore

variable {store : UserStore} {id : String}

/-- The ids of the users, in the order of their creation. -/
def storedIds (store : UserStore) : List String := store.users.map User.id

@[simp]
theorem length_storedIds (store : UserStore) : store.storedIds.length = store.size := List.length_map _

theorem find?_eq_none_iff : store.find? id = none ↔ id ∉ store.storedIds := by
  rw [find?, List.find?_eq_none, storedIds, List.mem_map]
  constructor
  · rintro absent ⟨user, stored, rfl⟩
    exact absent user stored (beq_self_eq_true _)
  · intro absent user stored same
    exact absent ⟨user, stored, eq_of_beq same⟩

@[simp]
theorem changed_id (request : UpdateUserRequest) (user : User) :
    (changed request user).id = user.id := rfl

@[simp]
theorem perform_create (store : UserStore) (newId : String) (request : CreateUserRequest) :
    store.perform newId (.create request) =
      (.ok (newUser newId request), (store.create newId request).2) := rfl

@[simp]
theorem perform_update (store : UserStore) (newId : String) (request : UpdateUserRequest) :
    store.perform newId (.update request) = store.update request := rfl

@[simp]
theorem perform_get (store : UserStore) (newId : String) (request : GetUserRequest) :
    store.perform newId (.get request) = (store.get request, store) := rfl

/-! ## Creating -/

theorem storedIds_create (store : UserStore) (id : String) (request : CreateUserRequest) :
    (store.create id request).2.storedIds = store.storedIds ++ [id] := List.map_append

/-- A new user is found unless there is an older one of its id. -/
theorem find?_create (store : UserStore) (newId : String) (request : CreateUserRequest) :
    (store.create newId request).2.find? id =
      (store.find? id).or (if newId = id then some (newUser newId request) else none) := by
  rw [create, find?, List.find?_append]
  by_cases same : newId = id <;> simp [find?, newUser, same]

/-! ## Updating -/

theorem map_id_changeFirst {change : User → User} (keeps : ∀ user, (change user).id = user.id)
    (users : List User) : (changeFirst id change users).map User.id = users.map User.id := by
  induction users with
  | nil => rfl
  | cons user rest ih =>
    rw [changeFirst]
    split <;> simp [keeps, ih]

theorem find?_changeFirst {change : User → User} (keeps : ∀ user, (change user).id = user.id)
    (users : List User) (other : String) :
    (changeFirst id change users).find? (fun user => user.id == other) =
      if other = id then (users.find? fun user => user.id == other).map change
      else users.find? fun user => user.id == other := by
  induction users with
  | nil => simp [changeFirst]
  | cons user rest ih =>
    rw [changeFirst]
    by_cases here : user.id = id
    · by_cases same : other = id
      · simp [here, same, keeps]
      · simp [here, same, keeps, Ne.symm same]
    · by_cases found : user.id = other
      · have different : other ≠ id := fun same => here (found.trans same)
        simp [found, different]
      · simp [here, found, ih]

theorem storedIds_update (store : UserStore) (request : UpdateUserRequest) :
    (store.update request).2.storedIds = store.storedIds := by
  rw [update]
  split
  · rfl
  · exact map_id_changeFirst (changed_id request) store.users

/-- An update changes the user of its id, if there is one, and no other. -/
theorem find?_update (store : UserStore) (request : UpdateUserRequest) :
    (store.update request).2.find? id =
      if id = request.id then (store.find? id).map (changed request) else store.find? id := by
  rw [update]
  split
  next absent =>
    split
    next same => rw [same, absent, Option.map_none]
    · rfl
  · exact find?_changeFirst (changed_id request) store.users id

/-- An update answers with what is found after it. -/
theorem update_fst (store : UserStore) (request : UpdateUserRequest) :
    (store.update request).1 = (store.update request).2.get ⟨request.id⟩ := by
  rw [get, find?_update, if_pos rfl, update]
  cases store.find? request.id <;> rfl

/-- The only refusal of the store is that an id is not found. -/
theorem eq_notFound_of_perform {store : UserStore} {newId : String} {request : UserRequest}
    {error : BackendError} (refused : (store.perform newId request).1 = .error error) :
    error = .notFound error.message := by
  have unfound : ∀ {store : UserStore} {id}, store.get id = .error error →
      error = .notFound error.message := by
    intro store id refused
    unfold get at refused
    split at refused
    · obtain rfl := Except.error.inj refused
      rfl
    · cases refused
  cases request with
  | create request => cases refused
  | update request => exact unfound ((update_fst store request).symm.trans refused)
  | get request => exact unfound refused

end ToolGateway.UserStore
