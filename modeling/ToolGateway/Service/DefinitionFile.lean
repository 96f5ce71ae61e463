import ToolGateway.Service.Definition
import ToolGateway.Text.Utf8
import ToolGateway.Toml.Reader

/-!
# Definition files

A definition file lists the messages of a service with their fields, and its methods with the
messages they take and give. `resolve` turns the decoded file into a service definition: a method
gets the fields of its input message, and those not marked optional are required.
-/

namespace ToolGateway

/-- A field of a message as a file gives it. -/
structure FieldEntry where
  name : String
  type : Option String
  repeated : Bool
  isOptional : Bool
deriving DecidableEq, Inhabited

namespace FieldEntry

/-- The kind of a field: an array if it is repeated, else that of its type, and a string without
one. -/
def kind (entry : FieldEntry) : FieldKind :=
  if entry.repeated then .array else (entry.type.map FieldKind.ofTypeName).getD .string

def field (entry : FieldEntry) : Field := .ofKind entry.name entry.kind

def decode : Decoder Toml FieldEntry :=
  Decoder.record "FieldEntry" ["name", "type", "repeated", "optional"] .refused fun fields =>
    FieldEntry.mk <$> fields.required "name" Decoder.string
      <*> fields.withDefault "type" (Decoder.optional Decoder.string) none
      <*> fields.withDefault "repeated" Decoder.boolean false
      <*> fields.withDefault "optional" Decoder.boolean false

end FieldEntry

/-- A message as a file gives it. -/
structure MessageEntry where
  name : String
  resource : Bool
  fields : List FieldEntry
deriving DecidableEq, Inhabited

namespace MessageEntry

def message (entry : MessageEntry) : Message where
  name := entry.name
  fields := entry.fields.map FieldEntry.field
  optionalFields := .ofList ((entry.fields.filter (·.isOptional)).map FieldEntry.name)
  entity := entry.resource

def decode : Decoder Toml MessageEntry :=
  Decoder.record "MessageEntry" ["name", "resource", "fields"] .refused fun fields =>
    MessageEntry.mk <$> fields.required "name" Decoder.string
      <*> fields.withDefault "resource" Decoder.boolean false
      <*> fields.withDefault "fields" (Decoder.list FieldEntry.decode) []

end MessageEntry

/-- A method as a file gives it. -/
structure MethodEntry where
  name : String
  input : Option String
  output : Option String
deriving DecidableEq, Inhabited

namespace MethodEntry

def decode : Decoder Toml MethodEntry :=
  Decoder.record "MethodEntry" ["name", "input", "output"] .refused fun fields =>
    MethodEntry.mk <$> fields.required "name" Decoder.string
      <*> fields.withDefault "input" (Decoder.optional Decoder.string) none
      <*> fields.withDefault "output" (Decoder.optional Decoder.string) none

end MethodEntry

/-- A decoded definition file. -/
structure DefinitionFile where
  package : String
  service : String
  messages : List MessageEntry
  methods : List MethodEntry
deriving DecidableEq, Inhabited

namespace DefinitionFile

def decode : Decoder Toml DefinitionFile :=
  Decoder.record "DefinitionFile" ["package", "service", "messages", "methods"] .refused
    fun fields =>
      DefinitionFile.mk <$> fields.withDefault "package" Decoder.string ""
        <*> fields.withDefault "service" Decoder.string ""
        <*> fields.withDefault "messages" (Decoder.list MessageEntry.decode) []
        <*> fields.withDefault "methods" (Decoder.list MethodEntry.decode) []

/-- Adds the message of an entry to those before it. Its name has to be new and its field names have
to differ. -/
def addMessage (before : List Message) (entry : MessageEntry) :
    Except DefinitionError (List Message) :=
  if (before.map Message.name).contains entry.name then .error (.duplicateMessage entry.name)
  else
    match firstRepeated? (entry.fields.map FieldEntry.name) with
    | some field => .error (.declaration (.duplicateField entry.name field))
    | none => .ok (before ++ [entry.message])

def messageFor (messages : List Message) (method name : String) :
    Except DefinitionError Message :=
  match messages.find? fun message => message.name == name with
  | some message => .ok message
  | none => .error (.unknownMessage method name)

/-- The method of an entry: its input is looked up before its output. -/
def resolveMethod (messages : List Message) (entry : MethodEntry) :
    Except DefinitionError Method := do
  let (fields, required) ←
    match entry.input with
    | some input => do
      let message ← messageFor messages entry.name input
      pure (message.fields, message.requiredNames)
    | none => pure ([], [])
  match entry.output with
  | some output =>
    let _ ← messageFor messages entry.name output
  | none => pure ()
  let method ← (Method.declare entry.name fields required).mapError .declaration
  return { method with inputType := entry.input, outputType := entry.output }

/-- The service definition of a file, or the first error in it: the package and the service, then
message by message, then method by method. -/
def resolve (file : DefinitionFile) : Except DefinitionError ServiceDefinition := do
  if file.package.isEmpty then throw (.missingKey "package")
  if file.service.isEmpty then throw (.missingKey "service")
  let messages ← file.messages.foldlM addMessage []
  let methods ← file.methods.mapM (resolveMethod messages)
  return ⟨file.package, file.service, methods, messages⟩

end DefinitionFile

namespace ServiceDefinition

/-- The service definition that the text of a definition file describes. -/
def ofText (text : String) : Except DefinitionError ServiceDefinition :=
  match Toml.read? text with
  | none => .error .malformed
  | some document =>
    match DefinitionFile.decode (.table document) with
    | .error error => .error (.misshapen error)
    | .ok file => file.resolve

/-- The service definition in a file, given what reading the file comes to. -/
def load (path : String) (content : Except FileFault (List UInt8)) :
    Except DefinitionError ServiceDefinition :=
  match content with
  | .error fault => .error (.unreadable path fault)
  | .ok bytes =>
    match Utf8.string? bytes with
    | none => .error (.unreadable path .notText)
    | some text => ofText text

end ServiceDefinition

end ToolGateway
