import ToolGateway.Backend
import ToolGateway.Json.Document

/-!
# Messages of the user service

Users, the three requests of the service, and the response they share. Every field of a request may
be left out; a field that is there has to have its type.
-/

namespace ToolGateway

/-- Whether a user may act. -/
inductive UserStatus where
  | unspecified
  | active
  | inactive
deriving DecidableEq, Inhabited

namespace UserStatus

def name : UserStatus → String
  | unspecified => "USER_STATUS_UNSPECIFIED"
  | active => "USER_STATUS_ACTIVE"
  | inactive => "USER_STATUS_INACTIVE"

def byName : List (String × UserStatus) :=
  [unspecified, active, inactive].map fun status => (status.name, status)

def toJson (status : UserStatus) : Json := .string status.name

def decode : Decoder Json UserStatus := Decoder.variant byName

end UserStatus

/-- A user. -/
structure User where
  id : String
  name : String
  email : String
  roles : List String
  status : UserStatus
deriving DecidableEq, Inhabited

namespace User

def toJson (user : User) : Json :=
  .object [("id", .string user.id), ("name", .string user.name), ("email", .string user.email),
    ("roles", .strings user.roles), ("status", user.status.toJson)]

def decode : Decoder Json User :=
  Decoder.record "User" ["id", "name", "email", "roles", "status"] .ignored fun fields =>
    User.mk <$> fields.required "id" Decoder.string
      <*> fields.required "name" Decoder.string
      <*> fields.required "email" Decoder.string
      <*> fields.required "roles" (Decoder.list Decoder.string)
      <*> fields.required "status" UserStatus.decode

end User

/-- The response of every method: the user it was about. -/
structure UserResponse where
  user : User
deriving DecidableEq, Inhabited

namespace UserResponse

def toJson (response : UserResponse) : Json := .object [("user", response.user.toJson)]

def decode : Decoder Json UserResponse :=
  Decoder.record "UserResponse" ["user"] .ignored fun fields =>
    UserResponse.mk <$> fields.required "user" User.decode

end UserResponse

/-- A request for a new user. -/
structure CreateUserRequest where
  name : String
  email : String
  roles : List String
deriving DecidableEq, Inhabited

namespace CreateUserRequest

def decode : Decoder Json CreateUserRequest :=
  Decoder.record "CreateUserRequest" ["name", "email", "roles"] .ignored fun fields =>
    CreateUserRequest.mk <$> fields.withDefault "name" Decoder.string ""
      <*> fields.withDefault "email" Decoder.string ""
      <*> fields.withDefault "roles" (Decoder.list Decoder.string) []

end CreateUserRequest

/-- A request to change a user. A name or email that is absent stays as it is, and so do the roles
if none are given. -/
structure UpdateUserRequest where
  id : String
  name : Option String
  email : Option String
  roles : List String
deriving DecidableEq, Inhabited

namespace UpdateUserRequest

def decode : Decoder Json UpdateUserRequest :=
  Decoder.record "UpdateUserRequest" ["id", "name", "email", "roles"] .ignored fun fields =>
    UpdateUserRequest.mk <$> fields.withDefault "id" Decoder.string ""
      <*> fields.withDefault "name" (Decoder.optional Decoder.string) none
      <*> fields.withDefault "email" (Decoder.optional Decoder.string) none
      <*> fields.withDefault "roles" (Decoder.list Decoder.string) []

end UpdateUserRequest

/-- A request to see a user. -/
structure GetUserRequest where
  id : String
deriving DecidableEq, Inhabited

namespace GetUserRequest

def decode : Decoder Json GetUserRequest :=
  Decoder.record "GetUserRequest" ["id"] .ignored fun fields =>
    GetUserRequest.mk <$> fields.withDefault "id" Decoder.string ""

end GetUserRequest

/-- A request to one of the methods of the service. -/
inductive UserRequest where
  | create (request : CreateUserRequest)
  | update (request : UpdateUserRequest)
  | get (request : GetUserRequest)
deriving DecidableEq, Inhabited

namespace UserRequest

def method : UserRequest → String
  | create _ => "CreateUser"
  | update _ => "UpdateUser"
  | get _ => "GetUser"

/-- Decodes the arguments of a call; a value of the wrong type is the caller's mistake. -/
def decodeArguments {α : Type} (decode : Decoder Json α) (arguments : Json.Object) :
    Except BackendError α :=
  (decode (.object arguments)).mapError fun error => .invalidArgument error.message

def ofCall (method : String) (arguments : Json.Object) : Except BackendError UserRequest :=
  if method = "CreateUser" then
    create <$> decodeArguments CreateUserRequest.decode arguments
  else if method = "UpdateUser" then
    update <$> decodeArguments UpdateUserRequest.decode arguments
  else if method = "GetUser" then
    get <$> decodeArguments GetUserRequest.decode arguments
  else
    .error (.unimplemented ("Method " ++ method ++ " is not implemented by UserService"))

end UserRequest

end ToolGateway
