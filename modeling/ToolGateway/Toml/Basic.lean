import ToolGateway.Decode.Record
import ToolGateway.Number.Layout

/-!
# TOML values

The value tree of a TOML document. Tables keep the order in which their keys first stand in the
document.
-/

namespace ToolGateway

/-- A TOML value. A date or time is kept as its normal text. -/
inductive Toml where
  | string (value : String)
  | integer (value : Int)
  | float (value : Real64)
  | boolean (value : Bool)
  | datetime (text : String)
  | array (items : List Toml)
  | table (members : List (String × Toml))
deriving Inhabited

namespace Toml

/-- The key under which decoders see the text of a date or time, which they take for a map. -/
def datetimeKey : String := "$__toml_private_datetime"

end Toml

instance : Document Toml where
  shape
    | .string value => .string value
    | .integer value => .integer value
    | .float value => .float (NumberLayout.pointed.extendedText value)
    | .boolean value => .boolean value
    | .datetime text => .map [(Toml.datetimeKey, .string text)]
    | .array items => .sequence items
    | .table members => .map members
  refusesSurplus := false

end ToolGateway
