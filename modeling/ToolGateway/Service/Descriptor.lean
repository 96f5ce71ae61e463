import ToolGateway.Service.FieldKind
import ToolGateway.Service.NameSet

/-!
# Descriptors

What is known about the fields, methods and messages of a service, and about the resource types it
offers. `Method.declare` only builds methods whose field names differ and whose required names are
fields.
-/

namespace ToolGateway

namespace NameSet

def toJson (set : NameSet) : Json := .strings set.toList

def decode : Decoder Json NameSet := fun value =>
  ofList <$> Decoder.list Decoder.string value

end NameSet

/-- A field of a request or message. -/
structure Field where
  name : String
  kind : FieldKind
  description : String
deriving DecidableEq, Inhabited

namespace Field

def ofKind (name : String) (kind : FieldKind) : Field := ⟨name, kind, "Field " ++ name⟩

def toJson (field : Field) : Json :=
  .object [("name", .string field.name), ("kind", field.kind.toJson),
    ("description", .string field.description)]

def decode : Decoder Json Field :=
  Decoder.record "FieldDescriptor" ["name", "kind", "description"] .ignored fun fields =>
    Field.mk <$> fields.required "name" Decoder.string
      <*> fields.required "kind" FieldKind.decode
      <*> fields.required "description" Decoder.string

end Field

/-- The first name of a list that stands in it before. -/
def firstRepeated? (names : List String) : Option String :=
  go [] names
where
  /-- The first name that is among `seen` or stands before. -/
  go (seen : List String) : List String → Option String
    | [] => none
    | name :: rest => if seen.contains name then some name else go (name :: seen) rest

/-- Why a method cannot be declared. -/
inductive DeclarationError where
  | duplicateField (owner field : String)
  | unknownRequiredField (method field : String)
deriving DecidableEq, Inhabited

/-- A method of a service, seen through its request. -/
structure Method where
  name : String
  description : String
  fields : List Field
  required : NameSet
  inputType : Option String
  outputType : Option String
deriving DecidableEq, Inhabited

namespace Method

/-- The method with these fields, of which those named in `required` have to be given. The field
names have to differ, and the required ones have to be among them. -/
def declare (name : String) (fields : List Field) (required : List String) :
    Except DeclarationError Method :=
  match firstRepeated? (fields.map Field.name) with
  | some field => .error (.duplicateField name field)
  | none =>
    match required.find? fun field => !(fields.map Field.name).contains field with
    | some field => .error (.unknownRequiredField name field)
    | none => .ok ⟨name, "", fields, .ofList required, none, none⟩

def isRequired (method : Method) (field : String) : Bool := method.required.contains field

/-- The required names in the order of the fields. -/
def requiredInOrder (method : Method) : List String :=
  (method.fields.map Field.name).filter method.isRequired

def toJson (method : Method) : Json :=
  .object [("name", .string method.name), ("description", .string method.description),
    ("fields", .array (method.fields.map Field.toJson)), ("required_fields", method.required.toJson),
    ("input_type", .ofString? method.inputType), ("output_type", .ofString? method.outputType)]

def decode : Decoder Json Method :=
  Decoder.record "MethodDescriptor"
    ["name", "description", "fields", "required_fields", "input_type", "output_type"] .ignored
    fun fields =>
      Method.mk <$> fields.required "name" Decoder.string
        <*> fields.withDefault "description" Decoder.string ""
        <*> fields.required "fields" (Decoder.list Field.decode)
        <*> fields.required "required_fields" NameSet.decode
        <*> fields.withDefault "input_type" (Decoder.optional Decoder.string) none
        <*> fields.withDefault "output_type" (Decoder.optional Decoder.string) none

end Method

/-- A message type of a service. -/
structure Message where
  name : String
  fields : List Field
  optionalFields : NameSet
  /-- Whether the message is an entity that clients may read. -/
  entity : Bool
deriving DecidableEq, Inhabited

namespace Message

/-- The names of the fields that are not optional, in order. -/
def requiredNames (message : Message) : List String :=
  (message.fields.map Field.name).filter fun name => !message.optionalFields.contains name

def toJson (message : Message) : Json :=
  .object [("name", .string message.name), ("fields", .array (message.fields.map Field.toJson)),
    ("optional_fields", message.optionalFields.toJson), ("entity", .boolean message.entity)]

def decode : Decoder Json Message :=
  Decoder.record "MessageDescriptor" ["name", "fields", "optional_fields", "entity"] .ignored
    fun fields =>
      Message.mk <$> fields.required "name" Decoder.string
        <*> fields.required "fields" (Decoder.list Field.decode)
        <*> fields.withDefault "optional_fields" NameSet.decode .empty
        <*> fields.withDefault "entity" Decoder.boolean false

end Message

/-- A resource type that clients may read. -/
structure ResourceType where
  typeName : String
  uri : String
  mediaType : String
  description : String
deriving DecidableEq, Inhabited

namespace ResourceType

def toJson (resource : ResourceType) : Json :=
  .object [("type_name", .string resource.typeName), ("uri", .string resource.uri),
    ("media_type", .string resource.mediaType), ("description", .string resource.description)]

def decode : Decoder Json ResourceType :=
  Decoder.record "ResourceTypeDescriptor" ["type_name", "uri", "media_type", "description"] .ignored
    fun fields =>
      ResourceType.mk <$> fields.required "type_name" Decoder.string
        <*> fields.required "uri" Decoder.string
        <*> fields.required "media_type" Decoder.string
        <*> fields.required "description" Decoder.string

end ResourceType

end ToolGateway
