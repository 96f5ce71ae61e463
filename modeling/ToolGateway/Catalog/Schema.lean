import ToolGateway.Service.Descriptor

/-!
# Input schemas

The JSON Schema of a method's arguments: an object with one property for each field, in the order of
the fields, and the required names in the same order.
-/

namespace ToolGateway

def Field.schema (field : Field) : Json :=
  .object [("type", field.kind.toJson), ("description", .string field.description)]

def Method.inputSchema (method : Method) : Json :=
  .object [("type", .string "object"),
    ("properties", .object
      (method.fields.foldl (fun properties field => Members.put properties field.name field.schema) [])),
    ("required", .strings method.requiredInOrder)]

end ToolGateway
