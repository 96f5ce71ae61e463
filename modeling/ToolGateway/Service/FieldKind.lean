import ToolGateway.Json.Document

/-!
# Field kinds

The type a request field has in the schema shown to clients, and the values it admits.
-/

namespace ToolGateway

/-- The JSON Schema type of a field. -/
inductive FieldKind where
  | string
  | number
  | boolean
  | array
  | object
deriving DecidableEq, Inhabited

namespace FieldKind

/-- The `type` keyword of a kind. -/
def name : FieldKind → String
  | string => "string"
  | number => "number"
  | boolean => "boolean"
  | array => "array"
  | object => "object"

def byName : List (String × FieldKind) :=
  [string, number, boolean, array, object].map fun kind => (kind.name, kind)

/-- The kind of a declared type: a schema type or a scalar type of the interface language. Every
other type, such as an enumeration or a nested message, is shown as a string. -/
def ofTypeName (type : String) : FieldKind :=
  if ["bool", "boolean"].contains type then boolean
  else if ["number", "int32", "int64", "uint32", "uint64", "sint32", "sint64", "fixed32", "fixed64",
      "sfixed32", "sfixed64", "float", "double"].contains type then number
  else if type = "array" then array
  else if type = "object" then object
  else string

/-- The name of a type that has a kind of its own: a schema type, or a scalar type of the interface
language that holds truth values or numbers. -/
inductive Named : FieldKind → String → Prop where
  | schema (kind : FieldKind) : Named kind kind.name
  | truth : Named boolean "bool"
  | integer {sign width : String} (signed : sign ∈ ["", "u", "s"]) (sized : width ∈ ["32", "64"]) :
      Named number (sign ++ "int" ++ width)
  | fixed {sign width : String} (signed : sign ∈ ["", "s"]) (sized : width ∈ ["32", "64"]) :
      Named number (sign ++ "fixed" ++ width)
  | float : Named number "float"
  | double : Named number "double"

theorem ofTypeName_of_named {kind : FieldKind} {type : String} (named : Named kind type) :
    ofTypeName type = kind := by
  have integers : ∀ sign ∈ ["", "u", "s"], ∀ width ∈ ["32", "64"],
      ofTypeName (sign ++ "int" ++ width) = number := by decide
  have fixeds : ∀ sign ∈ ["", "s"], ∀ width ∈ ["32", "64"],
      ofTypeName (sign ++ "fixed" ++ width) = number := by decide
  cases named with
  | schema => cases kind <;> decide
  | integer signed sized => exact integers _ signed _ sized
  | fixed signed sized => exact fixeds _ signed _ sized
  | truth | float | double => decide

/-- The listed types of numbers, by the parts of their names. -/
theorem numbers_spelt : ∀ type ∈ ["number", "int32", "int64", "uint32", "uint64", "sint32", "sint64",
      "fixed32", "fixed64", "sfixed32", "sfixed64", "float", "double"],
    type = "number" ∨ type = "float" ∨ type = "double" ∨
      (∃ sign ∈ ["", "u", "s"], ∃ width ∈ ["32", "64"], type = sign ++ "int" ++ width) ∨
      ∃ sign ∈ ["", "s"], ∃ width ∈ ["32", "64"], type = sign ++ "fixed" ++ width := by decide

theorem named_of_ofTypeName_ne {type : String} (other : ofTypeName type ≠ string) :
    Named (ofTypeName type) type := by
  unfold ofTypeName at other ⊢
  split
  next truth =>
    obtain rfl | rfl : type = "bool" ∨ type = "boolean" := by simpa using truth
    · exact .truth
    · exact .schema boolean
  split
  next listed =>
    obtain rfl | rfl | rfl | ⟨_, signed, _, sized, rfl⟩ | ⟨_, signed, _, sized, rfl⟩ :=
      numbers_spelt type (List.contains_iff_mem.mp listed)
    · exact .schema number
    · exact .float
    · exact .double
    · exact .integer signed sized
    · exact .fixed signed sized
  split
  next same => exact same ▸ .schema array
  split
  next same => exact same ▸ .schema object
  next => simp_all

/-- The kind that a type name gives: the one it names, and a string if it names none. -/
theorem ofTypeName_eq_iff {kind : FieldKind} {type : String} : ofTypeName type = kind ↔
    Named kind type ∨ kind = string ∧ ∀ other, ¬ Named other type := by
  constructor
  · rintro rfl
    by_cases text : ofTypeName type = string
    · by_cases named : Named string type
      · exact .inl (text ▸ named)
      · refine .inr ⟨text, fun other known => named ?_⟩
        obtain rfl : string = other := text.symm.trans (ofTypeName_of_named known)
        exact known
    · exact .inl (named_of_ofTypeName_ne text)
  · rintro (named | ⟨rfl, none⟩)
    · exact ofTypeName_of_named named
    · exact Classical.byContradiction fun other => none _ (named_of_ofTypeName_ne other)

/-- Whether a value is of a kind. -/
def accepts : FieldKind → Json → Bool
  | string, .string _ => true
  | number, .number _ => true
  | boolean, .boolean _ => true
  | array, .array _ => true
  | object, .object _ => true
  | _, _ => false

def toJson (kind : FieldKind) : Json := .string kind.name

def decode : Decoder Json FieldKind := Decoder.variant byName

end FieldKind

end ToolGateway
