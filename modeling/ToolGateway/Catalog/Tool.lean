import ToolGateway.Catalog.Error
import ToolGateway.Catalog.Schema
import ToolGateway.Service.Definition

/-!
# Tool catalogs

Every method of a service becomes a tool, in the order of the methods. A catalog is built only when
the method names differ.
-/

namespace ToolGateway

/-- A tool as clients see it in a listing. -/
structure ToolDefinition where
  name : String
  description : String
  inputSchema : Json
deriving Inhabited

namespace ToolDefinition

def toJson (tool : ToolDefinition) : Json :=
  .object [("name", .string tool.name), ("description", .string tool.description),
    ("inputSchema", tool.inputSchema)]

def decode : Decoder Json ToolDefinition :=
  Decoder.record "ToolDefinition" ["name", "description", "inputSchema"] .ignored fun fields =>
    ToolDefinition.mk <$> fields.required "name" Decoder.string
      <*> fields.required "description" Decoder.string
      <*> fields.required "inputSchema" Decoder.anything

end ToolDefinition

/-- A tool of a catalog: a method, described for the listing, and the schema of its arguments. -/
structure Tool where
  method : Method
  inputSchema : Json
deriving Inhabited

namespace Tool

def ofMethod (service : String) (method : Method) : Tool where
  method := { method with description := method.name ++ " method from " ++ service ++ " service" }
  inputSchema := method.inputSchema

def name (tool : Tool) : String := tool.method.name

def definition (tool : Tool) : ToolDefinition :=
  ⟨tool.method.name, tool.method.description, tool.inputSchema⟩

end Tool

/-- The tools of a service, in order. -/
structure ToolCatalog where
  service : String
  tools : List Tool
deriving Inhabited

namespace ToolCatalog

/-- The catalog of a service, or the first method name that stands twice. -/
def ofDefinition (definition : ServiceDefinition) : Except CatalogError ToolCatalog :=
  match firstRepeated? (definition.methods.map Method.name) with
  | some name => .error (.duplicateTool definition.name name)
  | none => .ok ⟨definition.name, definition.methods.map (Tool.ofMethod definition.name)⟩

def find? (catalog : ToolCatalog) (name : String) : Option Tool :=
  catalog.tools.find? fun tool => tool.name == name

def contains (catalog : ToolCatalog) (name : String) : Bool :=
  catalog.tools.any fun tool => tool.name == name

def names (catalog : ToolCatalog) : List String := catalog.tools.map Tool.name

def definitions (catalog : ToolCatalog) : List ToolDefinition := catalog.tools.map Tool.definition

def size (catalog : ToolCatalog) : Nat := catalog.tools.length

def isEmpty (catalog : ToolCatalog) : Bool := catalog.tools.isEmpty

end ToolCatalog

end ToolGateway
