import ToolGateway.Catalog.Tool
import ToolGateway.Members

/-!
# Tools by their places

The tools of a service in order, with the place of each of them kept under its name. An index is built
in one pass over the methods, which ends at the first name that is known already, and a tool is looked
up by its place. It answers as the catalog does, which searches its tools.
-/

namespace ToolGateway

/-- Tools in order, and where each of them stands. -/
structure ToolIndex where
  tools : List Tool
  places : Members Nat
deriving Inhabited

namespace ToolIndex

def empty : ToolIndex := ⟨[], []⟩

def contains (index : ToolIndex) (name : String) : Bool := (index.places.find? name).isSome

/-- The tool at the place kept under a name. -/
def find? (index : ToolIndex) (name : String) : Option Tool :=
  (index.places.find? name).bind fun place => index.tools[place]?

/-- Adds the tool of a method of a service behind the others. Its name has to be new. -/
def add (service : String) (index : ToolIndex) (method : Method) : Except CatalogError ToolIndex :=
  if index.contains method.name then .error (.duplicateTool service method.name)
  else .ok ⟨index.tools ++ [Tool.ofMethod service method],
    index.places.put method.name index.tools.length⟩

/-- The index of a service, method by method. -/
def ofDefinition (definition : ServiceDefinition) : Except CatalogError ToolIndex :=
  definition.methods.foldlM (add definition.name) empty

end ToolIndex

end ToolGateway
