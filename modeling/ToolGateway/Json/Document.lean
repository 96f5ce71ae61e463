import ToolGateway.Decode.Record
import ToolGateway.Json.Printer

/-!
# JSON values as documents

How decoders see a JSON value. A sequence may not have more items than the record it stands for.
-/

namespace ToolGateway

instance : Document Json where
  shape
    | .null => .null
    | .boolean value => .boolean value
    | .number (.integer value) => .integer value
    | .number (.float value) => .float (NumberLayout.wire.text value)
    | .string value => .string value
    | .array items => .sequence items
    | .object members => .map members
  refusesSurplus := true

namespace Json

def strings (values : List String) : Json := .array (values.map .string)

/-- A string or `null`. -/
def ofString? : Option String → Json
  | some value => .string value
  | none => .null

end Json

end ToolGateway
