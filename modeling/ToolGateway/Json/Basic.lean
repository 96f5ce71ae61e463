import ToolGateway.Members
import ToolGateway.Number.Binary64

/-!
# JSON values

A JSON value keeps the order of its object members and tells whole numbers from floating-point
numbers.
-/

namespace ToolGateway

/-- A number of a JSON value. -/
inductive JsonNumber where
  | integer (value : Int)
  | float (value : Binary64)
deriving DecidableEq, Inhabited

/-- A JSON value. -/
inductive Json where
  | null
  | boolean (value : Bool)
  | number (value : JsonNumber)
  | string (value : String)
  | array (items : List Json)
  | object (members : List (String × Json))
deriving Inhabited

namespace Json

def integer (value : Int) : Json := .number (.integer value)

/-- The members of an object. -/
abbrev Object := Members Json

/-- The member `name` of an object; other values have no members. -/
def get? : Json → String → Option Json
  | .object members, name => Members.find? members name
  | _, _ => none

def asString? : Json → Option String
  | .string value => some value
  | _ => none

/-- The name of a value's type, for messages. -/
def typeName : Json → String
  | .null => "null"
  | .boolean _ => "boolean"
  | .number _ => "number"
  | .string _ => "string"
  | .array _ => "array"
  | .object _ => "object"

end Json

end ToolGateway
