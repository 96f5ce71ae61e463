import ToolGateway.Decode.Error
import ToolGateway.Members
import ToolGateway.Number.Word

/-!
# Decoders

A decoder turns a value of a data format into a typed value or says why not. Decoders see a value
only through its outermost form, so the same decoder serves every format that is a `Document`.
-/

namespace ToolGateway

/-- The outermost form of a value. -/
inductive Shape (α : Type) where
  | null
  | boolean (value : Bool)
  | integer (value : Int)
  | float (text : String)
  | string (value : String)
  | sequence (items : List α)
  | map (members : Members α)

namespace Shape

variable {α : Type}

def found : Shape α → Found
  | null => .null
  | boolean value => .boolean value
  | integer value => .integer value
  | float text => .float text
  | string value => .string value
  | sequence _ => .sequence
  | map _ => .map

end Shape

/-- A data format whose values decoders can look at. -/
class Document (α : Type) where
  shape : α → Shape α
  /-- Whether a sequence with more items than the record it stands for is refused. -/
  refusesSurplus : Bool

/-- Turns a value into a typed value or says why not. -/
abbrev Decoder (α β : Type) := α → Except DecodeError β

namespace Decoder

variable {α β : Type}

/-- Any value, as it is. -/
def anything : Decoder α α := .ok

/-- The refusal of a value whose form is not the expected one. -/
def refuse [Document α] (expected : String) : Decoder α β := fun value =>
  .error (.wrongType (Document.shape value).found expected)

def string [Document α] : Decoder α String := fun value =>
  match Document.shape value with
  | .string text => .ok text
  | _ => refuse "a string" value

def boolean [Document α] : Decoder α Bool := fun value =>
  match Document.shape value with
  | .boolean flag => .ok flag
  | _ => refuse "a boolean" value

/-- A whole number of 32 bits with sign. -/
def int32 [Document α] : Decoder α Int := fun value =>
  match Document.shape value with
  | .integer n =>
    if isInt32 n then .ok n else .error (.wrongValue (.integer n) "i32")
  | _ => refuse "i32" value

/-- A sequence; the first item that is refused decides. -/
def list [Document α] (item : Decoder α β) : Decoder α (List β) := fun value =>
  match Document.shape value with
  | .sequence items => items.mapM item
  | _ => refuse "a sequence" value

/-- `null` for nothing, or a value. -/
def optional [Document α] (present : Decoder α β) : Decoder α (Option β) := fun value =>
  match Document.shape value with
  | .null => .ok none
  | _ => some <$> present value

def variantNamed (variants : List (String × β)) (name : String) : Except DecodeError β :=
  match variants.lookup name with
  | some variant => .ok variant
  | none => .error (.unknownVariant name (variants.map Prod.fst))

/-- One of several named variants, given by its name or by a map from its name to `null`. -/
def variant [Document α] (variants : List (String × β)) : Decoder α β := fun value =>
  match Document.shape value with
  | .string name => variantNamed variants name
  | .map [(name, payload)] => do
    let found ← variantNamed variants name
    match Document.shape payload with
    | .null => return found
    | _ => refuse "unit" payload
  | .map _ => .error (.wrongValue .map "map with a single key")
  | _ => refuse "string or map" value

end Decoder

end ToolGateway
