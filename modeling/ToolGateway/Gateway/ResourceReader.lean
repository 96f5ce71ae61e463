import ToolGateway.Catalog.Resource
import ToolGateway.Gateway.Dispatch
import ToolGateway.Gateway.ResourceUri

/-!
# Reading resources

The type token of a URI selects the resource type, whatever the scheme says; the backend then gives
its present representation.
-/

namespace ToolGateway

/-- The representation of a resource. -/
structure ResourceContents where
  uri : String
  mimeType : String
  text : String
deriving DecidableEq, Inhabited

namespace ResourceContents

def toJson (contents : ResourceContents) : Json :=
  .object [("uri", .string contents.uri), ("mimeType", .string contents.mimeType),
    ("text", .string contents.text)]

def decode : Decoder Json ResourceContents :=
  Decoder.record "ResourceContents" ["uri", "mimeType", "text"] .ignored fun fields =>
    ResourceContents.mk <$> fields.required "uri" Decoder.string
      <*> fields.required "mimeType" Decoder.string
      <*> fields.required "text" Decoder.string

end ResourceContents

/-- Reads the resource a URI names. -/
def ResourceCatalog.read {σ : Type} (catalog : ResourceCatalog) (backend : Backend σ)
    (uri : String) (state : σ) : Except GatewayError ResourceContents × σ :=
  let token := (ResourceUri.parse uri).typeToken
  match catalog.find? token with
  | none => (.error (.unknownResourceType token), state)
  | some resource =>
    let (outcome, state) := backend.materialize resource.typeName state
    ((GatewayError.ofOutcome ("reading " ++ resource.typeName) outcome).map fun text =>
      ⟨uri, resource.mediaType, text⟩, state)

end ToolGateway
