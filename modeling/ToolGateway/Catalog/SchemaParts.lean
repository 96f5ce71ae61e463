import ToolGateway.Catalog.Schema

/-!
# Input schemas in one pass

The schema of a method gathered field by field: the property of a field is put under its name, and the
name is added to the required ones if the field has to be given. This comes to what
`Method.inputSchema` comes to, which goes through the fields once for each of the two.
-/

namespace ToolGateway

/-- What is gathered for the schema of a method. -/
structure SchemaParts where
  properties : Json.Object
  required : List Json
deriving Inhabited

namespace SchemaParts

def empty : SchemaParts := ⟨[], []⟩

/-- Adds a field of a method. -/
def add (method : Method) (parts : SchemaParts) (field : Field) : SchemaParts where
  properties := Members.put parts.properties field.name field.schema
  required :=
    if method.isRequired field.name then parts.required ++ [.string field.name] else parts.required

/-- The parts of the schema of a method. -/
def ofMethod (method : Method) : SchemaParts :=
  method.fields.foldl (add method) empty

def toJson (parts : SchemaParts) : Json :=
  .object [("type", .string "object"), ("properties", .object parts.properties),
    ("required", .array parts.required)]

end SchemaParts

end ToolGateway
