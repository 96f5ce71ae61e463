import ToolGateway.Gateway.ResourceReader
import ToolGateway.Protocol.Result

/-!
# Gateways

A gateway offers a service's methods as tools and its messages as resources. It holds the two
catalogs; the backend that carries out the calls is given to each of them.
-/

namespace ToolGateway

/-- The catalogs of a service. -/
structure Gateway where
  package : String
  tools : ToolCatalog
  resources : ResourceCatalog
deriving Inhabited

namespace Gateway

/-- The gateway to a service. The tool catalog is built first. -/
def ofDefinition (definition : ServiceDefinition) (selection : ResourceSelection) :
    Except CatalogError Gateway := do
  let tools ← ToolCatalog.ofDefinition definition
  let resources ← ResourceCatalog.ofDefinition definition selection
  return ⟨definition.package, tools, resources⟩

def resourceInfos (gateway : Gateway) : List ResourceInfo :=
  gateway.resources.resources.map fun resource =>
    ⟨resource.uri, resource.typeName, resource.description, resource.mediaType⟩

end Gateway

/-- The text that shows the payload of a successful tool call. -/
def payloadText (payload : Json) : String := payload.pretty

def payloadContent (payload : Json) : List Content := [.text (payloadText payload)]

end ToolGateway
