import ToolGateway.Users.Message

/-!
# Stored users

The users in the order of their creation. No user is ever removed, so the number of users is also
the number of ids given out.
-/

namespace ToolGateway

/-- The users in the order of their creation. -/
structure UserStore where
  users : List User
deriving DecidableEq, Inhabited

namespace UserStore

def empty : UserStore := ⟨[]⟩

def size (store : UserStore) : Nat := store.users.length

/-- The first user of an id. -/
def find? (store : UserStore) (id : String) : Option User :=
  store.users.find? fun user => user.id == id

/-- The refusal of a request about an id that no user has. -/
def notFound (id : String) : BackendError := .notFound ("User " ++ id ++ " not found")

def newUser (id : String) (request : CreateUserRequest) : User :=
  ⟨id, request.name, request.email, request.roles, .active⟩

def create (store : UserStore) (id : String) (request : CreateUserRequest) : User × UserStore :=
  let user := newUser id request
  (user, ⟨store.users ++ [user]⟩)

def changed (request : UpdateUserRequest) (user : User) : User :=
  { user with
    name := request.name.getD user.name
    email := request.email.getD user.email
    roles := if request.roles.isEmpty then user.roles else request.roles }

/-- Changes the first user of an id, and only that one. -/
def changeFirst (id : String) (change : User → User) : List User → List User
  | [] => []
  | user :: rest => if user.id = id then change user :: rest else user :: changeFirst id change rest

/-- Carries out a change; the answer is the user after it. -/
def update (store : UserStore) (request : UpdateUserRequest) :
    Except BackendError User × UserStore :=
  match store.find? request.id with
  | none => (.error (notFound request.id), store)
  | some user =>
    (.ok (changed request user), ⟨changeFirst request.id (changed request) store.users⟩)

def get (store : UserStore) (request : GetUserRequest) : Except BackendError User :=
  match store.find? request.id with
  | none => .error (notFound request.id)
  | some user => .ok user

/-- Carries out a request; a new user gets the id `newId`. -/
def perform (newId : String) (store : UserStore) :
    UserRequest → Except BackendError User × UserStore
  | .create request =>
    let (user, store) := store.create newId request
    (.ok user, store)
  | .update request => store.update request
  | .get request => (store.get request, store)

/-- The users as the resource type that lists them. -/
def listing (store : UserStore) : Json :=
  .object [("type", .string "User"), ("items", .array (store.users.map User.toJson))]

/-- The representation of a resource type; only users are stored. -/
def materialize (store : UserStore) (typeName : String) : Except BackendError String :=
  if typeName = "User" then .ok store.listing.pretty
  else .error (.notFound ("Resource type " ++ typeName ++ " has no stored instances"))

/-- Carries out a call of a method. The user created as number `n`, counted from zero, gets the id
`ids n`. -/
def invoke (ids : Nat → String) (method : String) (arguments : Json.Object) (store : UserStore) :
    Except BackendError Json × UserStore :=
  match UserRequest.ofCall method arguments with
  | .error error => (.error error, store)
  | .ok request =>
    let (result, store) := store.perform (ids store.size) request
    (result.map fun user => (UserResponse.mk user).toJson, store)

/-- The user service that keeps its users in memory. -/
def backend (ids : Nat → String) : Backend UserStore where
  invoke method arguments store :=
    let (result, store) := store.invoke ids method arguments
    (.ofExcept result, store)
  materialize typeName store := (.ofExcept (store.materialize typeName), store)

end UserStore

end ToolGateway
