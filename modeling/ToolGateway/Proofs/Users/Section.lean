import ToolGateway.Proofs.Users.Store

/-!
# Critical sections on the users

What a call does while it holds the lock, in the steps in which it touches the users: a new user is
added at once, an update first looks for its user and then writes one field after the other. `finish`
is what comes of the rest of a section that nothing interferes with. A step of the section does not
change it (`finish_work`), and for a section that begins it is `perform` (`finish_begin`).
-/

namespace ToolGateway

/-- One field that an update writes. -/
inductive FieldWrite where
  | name (value : String)
  | email (value : String)
  | roles (value : List String)
deriving DecidableEq, Inhabited

namespace FieldWrite

def apply (write : FieldWrite) (user : User) : User :=
  match write with
  | .name value => { user with name := value }
  | .email value => { user with email := value }
  | .roles value => { user with roles := value }

def applyAll (writes : List FieldWrite) (user : User) : User :=
  writes.foldl (fun user write => write.apply user) user

@[simp]
theorem apply_id (write : FieldWrite) (user : User) : (write.apply user).id = user.id := by
  cases write <;> rfl

end FieldWrite

/-- The fields that an update writes, in the order in which it writes them. -/
def UpdateUserRequest.writes (request : UpdateUserRequest) : List FieldWrite :=
  (request.name.map .name).toList ++ (request.email.map .email).toList ++
    if request.roles.isEmpty then [] else [.roles request.roles]

namespace UserStore

theorem applyAll_writes (request : UpdateUserRequest) (user : User) :
    FieldWrite.applyAll request.writes user = changed request user := by
  obtain ⟨id, name, email, roles⟩ := request
  cases name <;> cases email <;> cases roles <;>
    simp [UpdateUserRequest.writes, FieldWrite.applyAll, FieldWrite.apply, changed]

theorem changeFirst_same (id : String) (users : List User) :
    changeFirst id (fun user => user) users = users := by
  induction users with
  | nil => rfl
  | cons user rest ih =>
    rw [changeFirst, ih]
    split <;> rfl

theorem changeFirst_changeFirst {id : String} {first second : User → User}
    (keeps : ∀ user, (first user).id = user.id) (users : List User) :
    changeFirst id second (changeFirst id first users) =
      changeFirst id (fun user => second (first user)) users := by
  induction users with
  | nil => rfl
  | cons user rest ih =>
    by_cases here : user.id = id
    · simp [changeFirst, here, keeps]
    · simp [changeFirst, here, ih]

end UserStore

/-- What a call that holds the lock still has to do. -/
inductive Section where
  /-- Add a user. -/
  | push (user : User)
  /-- Look for the user to update. -/
  | search (request : UpdateUserRequest)
  /-- Write fields of the user of this id, then copy the user. -/
  | assign (id : String) (writes : List FieldWrite)
  /-- Copy the user of this id. -/
  | look (id : String)
  /-- Give the lock back, which is exclusive or shared, with this answer. -/
  | done (exclusive : Bool) (answer : Except BackendError User)

namespace Section

open UserStore

/-- The section of a request; a new user gets the id `newId`. -/
def begin (newId : String) : UserRequest → Section
  | .create request => push (newUser newId request)
  | .update request => search request
  | .get request => look request.id

/-- Whether the section holds the lock for writing, so that no other call may hold it. -/
def exclusive : Section → Bool
  | push _ | search _ | assign .. => true
  | look _ => false
  | done exclusive _ => exclusive

/-- The next step of a section. -/
def work : Section → UserStore → Section × UserStore
  | push user, store => (done true (.ok user), ⟨store.users ++ [user]⟩)
  | search request, store =>
    match store.find? request.id with
    | none => (done true (.error (notFound request.id)), store)
    | some _ => (assign request.id request.writes, store)
  | assign id (write :: writes), store =>
    (assign id writes, ⟨changeFirst id write.apply store.users⟩)
  | assign id [], store => (done true (store.get ⟨id⟩), store)
  | look id, store => (done false (store.get ⟨id⟩), store)
  | done exclusive answer, store => (done exclusive answer, store)

/-- What comes of a section that is carried out to its end without interference. -/
def finish : Section → UserStore → Except BackendError User × UserStore
  | push user, store => (.ok user, ⟨store.users ++ [user]⟩)
  | search request, store => store.update request
  | assign id writes, store =>
    let store : UserStore := ⟨changeFirst id (FieldWrite.applyAll writes) store.users⟩
    (store.get ⟨id⟩, store)
  | look id, store => (store.get ⟨id⟩, store)
  | done _ answer, store => (answer, store)

theorem finish_begin (newId : String) (request : UserRequest) (store : UserStore) :
    (begin newId request).finish store = store.perform newId request := by
  cases request <;> rfl

theorem finish_assign_writes {request : UpdateUserRequest} {store : UserStore} {user : User}
    (found : store.find? request.id = some user) :
    (assign request.id request.writes).finish store = store.update request := by
  have writes : FieldWrite.applyAll request.writes = changed request :=
    funext (applyAll_writes request)
  have updated : (store.update request).2 = ⟨changeFirst request.id (changed request) store.users⟩ := by
    rw [update, found]
  rw [finish, writes, ← updated, ← update_fst]

/-- A step leaves what comes of the section. -/
theorem finish_work (part : Section) (store : UserStore) :
    (part.work store).1.finish (part.work store).2 = part.finish store := by
  cases part with
  | push user => rfl
  | search request =>
    rw [work, finish]
    split
    next absent => rw [finish, update, absent]
    next user found => exact finish_assign_writes found
  | assign id writes =>
    cases writes with
    | nil =>
      have same : changeFirst id (FieldWrite.applyAll []) store.users = store.users :=
        changeFirst_same id store.users
      simp only [work, finish, same]
    | cons write writes =>
      simp only [work, finish, changeFirst_changeFirst (FieldWrite.apply_id write)]
      rfl
  | look id => rfl
  | done exclusive answer => rfl

theorem exclusive_work (part : Section) (store : UserStore) :
    (part.work store).1.exclusive = part.exclusive := by
  cases part with
  | search request =>
    rw [work]
    split <;> rfl
  | assign id writes => cases writes <;> rfl
  | push user => rfl
  | look id => rfl
  | done exclusive answer => rfl

/-- Only who holds the lock for writing changes the users. -/
theorem work_of_shared {part : Section} (shared : part.exclusive = false) (store : UserStore) :
    (part.work store).2 = store := by
  cases part with
  | look id => rfl
  | done exclusive answer => rfl
  | push user => cases shared
  | search request => cases shared
  | assign id writes => cases shared

end Section

end ToolGateway
