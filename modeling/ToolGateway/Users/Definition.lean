import ToolGateway.Service.DefinitionFile

/-!
# The description of the user service

The definition that is served when no definition file is named: the text of its file, and the file as
it is read from the text.
-/

namespace ToolGateway

/-! ## The text -/

/-- The lines of the file. -/
def userDefinitionLines : List String := [
  "# example.v1.UserService",
  "#",
  "# Mirrors example/v1/example.proto. Fields without `optional = true` are",
  "# required, as with proto3 fields lacking the `optional` keyword.",
  "",
  "package = \"example.v1\"",
  "service = \"UserService\"",
  "",
  "[[messages]]",
  "name = \"User\"",
  "resource = true",
  "fields = [",
  "  \x7b name = \"id\", type = \"string\" \x7d,",
  "  \x7b name = \"name\", type = \"string\" \x7d,",
  "  \x7b name = \"email\", type = \"string\" \x7d,",
  "  \x7b name = \"roles\", type = \"string\", repeated = true \x7d,",
  "  \x7b name = \"status\", type = \"UserStatus\" \x7d,",
  "]",
  "",
  "[[messages]]",
  "name = \"CreateUserRequest\"",
  "fields = [",
  "  \x7b name = \"name\", type = \"string\" \x7d,",
  "  \x7b name = \"email\", type = \"string\" \x7d,",
  "  \x7b name = \"roles\", type = \"string\", repeated = true \x7d,",
  "]",
  "",
  "[[messages]]",
  "name = \"CreateUserResponse\"",
  "fields = [\x7b name = \"user\", type = \"User\" \x7d]",
  "",
  "[[messages]]",
  "name = \"UpdateUserRequest\"",
  "fields = [",
  "  \x7b name = \"id\", type = \"string\" \x7d,",
  "  \x7b name = \"name\", type = \"string\", optional = true \x7d,",
  "  \x7b name = \"email\", type = \"string\", optional = true \x7d,",
  "  \x7b name = \"roles\", type = \"string\", repeated = true \x7d,",
  "]",
  "",
  "[[messages]]",
  "name = \"UpdateUserResponse\"",
  "fields = [\x7b name = \"user\", type = \"User\" \x7d]",
  "",
  "[[messages]]",
  "name = \"GetUserRequest\"",
  "fields = [\x7b name = \"id\", type = \"string\" \x7d]",
  "",
  "[[messages]]",
  "name = \"GetUserResponse\"",
  "fields = [\x7b name = \"user\", type = \"User\" \x7d]",
  "",
  "[[methods]]",
  "name = \"CreateUser\"",
  "input = \"CreateUserRequest\"",
  "output = \"CreateUserResponse\"",
  "",
  "[[methods]]",
  "name = \"UpdateUser\"",
  "input = \"UpdateUserRequest\"",
  "output = \"UpdateUserResponse\"",
  "",
  "[[methods]]",
  "name = \"GetUser\"",
  "input = \"GetUserRequest\"",
  "output = \"GetUserResponse\""]

def userDefinitionText : String := String.join (userDefinitionLines.map (· ++ "\n"))

/-! ## The file -/

namespace FieldEntry

/-- A field of a type that is neither repeated nor optional. -/
def single (name type : String) : FieldEntry := ⟨name, some type, false, false⟩

def listOf (name type : String) : FieldEntry := ⟨name, some type, true, false⟩

def maybe (name type : String) : FieldEntry := ⟨name, some type, false, true⟩

end FieldEntry

def userResponseEntry (name : String) : MessageEntry := ⟨name, false, [.single "user" "User"]⟩

/-- The method of this name with its request and its response. -/
def userMethodEntry (name : String) : MethodEntry :=
  ⟨name, some (name ++ "Request"), some (name ++ "Response")⟩

/-- The user service as the file describes it. -/
def userDefinitionFile : DefinitionFile where
  package := "example.v1"
  service := "UserService"
  messages := [
    ⟨"User", true, [.single "id" "string", .single "name" "string", .single "email" "string",
      .listOf "roles" "string", .single "status" "UserStatus"]⟩,
    ⟨"CreateUserRequest", false, [.single "name" "string", .single "email" "string",
      .listOf "roles" "string"]⟩,
    userResponseEntry "CreateUserResponse",
    ⟨"UpdateUserRequest", false, [.single "id" "string", .maybe "name" "string",
      .maybe "email" "string", .listOf "roles" "string"]⟩,
    userResponseEntry "UpdateUserResponse",
    ⟨"GetUserRequest", false, [.single "id" "string"]⟩,
    userResponseEntry "GetUserResponse"]
  methods := [userMethodEntry "CreateUser", userMethodEntry "UpdateUser", userMethodEntry "GetUser"]

def userDefinition : Except DefinitionError ServiceDefinition := userDefinitionFile.resolve

end ToolGateway
