import ToolGateway.Users.Message
import ToolGateway.Wire.Field

/-!
# Binary form of the user service's messages

Each message is written as its fields in the order of their numbers; empty strings and zeros are left
out, optional strings only when they are absent. Reading starts from the empty message and takes the
fields as they come: the last value counts, repeated fields collect theirs, and unknown fields are
passed over.
-/

namespace ToolGateway

open Wire

/-- A user as it is sent: the status may be any number of 32 bits. -/
structure WireUser where
  id : String
  name : String
  email : String
  roles : List String
  status : Int32
deriving DecidableEq

/-- A response as it is sent: the user may be missing. -/
structure WireResponse where
  user : Option WireUser
deriving DecidableEq

namespace UserStatus

def number : UserStatus → Int32
  | unspecified => 0
  | active => 1
  | inactive => 2

/-- The status of a number; a number without one is unspecified. -/
def ofNumber (number : Int32) : UserStatus :=
  if number = 1 then active else if number = 2 then inactive else unspecified

end UserStatus

namespace CreateUserRequest

def toWire (request : CreateUserRequest) : List UInt8 :=
  plainField 1 request.name ++ plainField 2 request.email ++ repeatedField 3 request.roles

def absorb (request : CreateUserRequest) (field : WireField) : Option CreateUserRequest :=
  match field.number with
  | 1 => return { request with name := ← field.value.string? }
  | 2 => return { request with email := ← field.value.string? }
  | 3 => return { request with roles := request.roles ++ [← field.value.string?] }
  | _ => some request

def ofWire? (text : List UInt8) : Option CreateUserRequest := do
  (← readFields? nestingLimit text).foldlM absorb ⟨"", "", []⟩

end CreateUserRequest

namespace UpdateUserRequest

def toWire (request : UpdateUserRequest) : List UInt8 :=
  plainField 1 request.id ++ optionalField 2 request.name ++ optionalField 3 request.email
    ++ repeatedField 4 request.roles

def absorb (request : UpdateUserRequest) (field : WireField) : Option UpdateUserRequest :=
  match field.number with
  | 1 => return { request with id := ← field.value.string? }
  | 2 => return { request with name := some (← field.value.string?) }
  | 3 => return { request with email := some (← field.value.string?) }
  | 4 => return { request with roles := request.roles ++ [← field.value.string?] }
  | _ => some request

def ofWire? (text : List UInt8) : Option UpdateUserRequest := do
  (← readFields? nestingLimit text).foldlM absorb ⟨"", none, none, []⟩

end UpdateUserRequest

namespace GetUserRequest

def toWire (request : GetUserRequest) : List UInt8 := plainField 1 request.id

def absorb (request : GetUserRequest) (field : WireField) : Option GetUserRequest :=
  match field.number with
  | 1 => return { request with id := ← field.value.string? }
  | _ => some request

def ofWire? (text : List UInt8) : Option GetUserRequest := do
  (← readFields? nestingLimit text).foldlM absorb ⟨""⟩

end GetUserRequest

namespace UserRequest

/-- The binary form of a request, which does not say to which method it goes. -/
def toWire : UserRequest → List UInt8
  | create request => request.toWire
  | update request => request.toWire
  | get request => request.toWire

end UserRequest

namespace WireUser

def empty : WireUser := ⟨"", "", "", [], 0⟩

instance : Inhabited WireUser := ⟨empty⟩

/-- A number of 32 bits with sign, extended to 64 bits. -/
def extended (n : Int32) : Nat := (n.toInt % wordCount64).toNat

def toWire (user : WireUser) : List UInt8 :=
  plainField 1 user.id ++ plainField 2 user.name ++ plainField 3 user.email
    ++ repeatedField 4 user.roles
    ++ (if user.status = 0 then [] else varintField 5 (extended user.status))

def absorb (user : WireUser) (field : WireField) : Option WireUser :=
  match field.number with
  | 1 => return { user with id := ← field.value.string? }
  | 2 => return { user with name := ← field.value.string? }
  | 3 => return { user with email := ← field.value.string? }
  | 4 => return { user with roles := user.roles ++ [← field.value.string?] }
  | 5 => return { user with status := ← field.value.int32? }
  | _ => some user

/-- The user after the fields of a text, which may be nested `depth` deep. -/
def absorbAll (user : WireUser) (depth : Nat) (text : List UInt8) : Option WireUser := do
  (← readFields? depth text).foldlM absorb user

def ofWire? (text : List UInt8) : Option WireUser := empty.absorbAll nestingLimit text

def ofUser (user : User) : WireUser :=
  ⟨user.id, user.name, user.email, user.roles, user.status.number⟩

def toUser (user : WireUser) : User :=
  ⟨user.id, user.name, user.email, user.roles, .ofNumber user.status⟩

end WireUser

namespace WireResponse

def empty : WireResponse := ⟨none⟩

instance : Inhabited WireResponse := ⟨empty⟩

def toWire (response : WireResponse) : List UInt8 :=
  (response.user.map fun user => bytesField 1 user.toWire).getD []

/-- The response after one more field. A second user adds its fields to the first one. -/
def absorb (response : WireResponse) (field : WireField) : Option WireResponse :=
  match field.number, field.value with
  | 1, .bytes content =>
    return ⟨some (← (response.user.getD .empty).absorbAll (nestingLimit - 1) content)⟩
  | 1, _ => none
  | _, _ => some response

def ofWire? (text : List UInt8) : Option WireResponse := do
  (← readFields? nestingLimit text).foldlM absorb empty

end WireResponse

end ToolGateway
