import ToolGateway.Gateway.ResourceUri
import ToolGateway.Text.Offset

/-!
# Resource URIs cut at offsets

A URI split as the bytes it is kept in: the last separator is looked for among the bytes, and the URI
is cut before and behind it. This comes to what `ResourceUri.parse` comes to, which splits the
characters.
-/

namespace ToolGateway.ResourceUri

def separatorBytes : List UInt8 := [0x3A, 0x2F, 0x2F]

/-- The parts of a URI, or nothing if it cannot be cut before and behind its last separator. -/
def parseBytes? (uri : String) : Option ResourceUri :=
  match Utf8.lastOffset? separatorBytes (Utf8.bytes uri) with
  | none => some ⟨none, uri⟩
  | some offset => do
    let scheme ← Utf8.before? uri offset
    let token ← Utf8.behind? uri (offset + 3)
    return ⟨some scheme, token⟩

end ToolGateway.ResourceUri
