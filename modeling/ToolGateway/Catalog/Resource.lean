import ToolGateway.Catalog.Error
import ToolGateway.Service.Definition

/-!
# Resource catalogs

The messages a selection picks become resource types, in the order of the messages. A catalog is
built only when their names differ.
-/

namespace ToolGateway

/-- Which messages become resources. -/
inductive ResourceSelection where
  /-- The entities. -/
  | entities
  /-- The entities and every message that is the input or output of a method. -/
  | entitiesAndPayloads
deriving DecidableEq, Inhabited

namespace ResourceSelection

def name : ResourceSelection → String
  | entities => "entities"
  | entitiesAndPayloads => "entities_and_payloads"

def byName : List (String × ResourceSelection) :=
  [entities, entitiesAndPayloads].map fun selection => (selection.name, selection)

def toJson (selection : ResourceSelection) : Json := .string selection.name

def decode : Decoder Json ResourceSelection := Decoder.variant byName

/-- The names of the messages that are the input or output of a method. -/
def payloads (definition : ServiceDefinition) : List String :=
  definition.methods.flatMap fun method => method.inputType.toList ++ method.outputType.toList

/-- Whether a selection picks a message of a service. -/
def picks (selection : ResourceSelection) (definition : ServiceDefinition) (message : Message) :
    Bool :=
  message.entity ||
    match selection with
    | entities => false
    | entitiesAndPayloads => (payloads definition).contains message.name

end ResourceSelection

def resourceMediaType : String := "application/json"

/-- The resource type a message of a package becomes. -/
def ResourceType.ofMessage (package : String) (message : Message) : ResourceType where
  typeName := message.name
  uri := package ++ "://" ++ message.name
  mediaType := resourceMediaType
  description := "Resource type " ++ message.name

/-- The resource types of a service, in order. -/
structure ResourceCatalog where
  resources : List ResourceType
deriving DecidableEq, Inhabited

namespace ResourceCatalog

/-- The catalog of a service, or the first name picked that was picked before. -/
def ofDefinition (definition : ServiceDefinition) (selection : ResourceSelection) :
    Except CatalogError ResourceCatalog :=
  let picked := definition.messages.filter (selection.picks definition)
  match firstRepeated? (picked.map Message.name) with
  | some name => .error (.duplicateResource name)
  | none => .ok ⟨picked.map (ResourceType.ofMessage definition.package)⟩

def find? (catalog : ResourceCatalog) (typeName : String) : Option ResourceType :=
  catalog.resources.find? fun resource => resource.typeName == typeName

def size (catalog : ResourceCatalog) : Nat := catalog.resources.length

def isEmpty (catalog : ResourceCatalog) : Bool := catalog.resources.isEmpty

end ResourceCatalog

end ToolGateway
