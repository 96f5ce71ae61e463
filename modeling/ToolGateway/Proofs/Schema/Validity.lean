import ToolGateway.Json.Basic

/-!
# Valid values

What the keywords `type`, `properties` and `required` of JSON Schema mean, for any schema that uses
them and apart from the schemas that methods have. A schema is `true`, `false` or an object; an
object admits a value when each of its keywords does, and other keywords admit everything.
-/

namespace ToolGateway.JsonSchema

/-- Whether a value is a number without a fractional part. -/
def isWhole : Json → Bool
  | .number (.integer _) => true
  | .number (.float x) => x.steps % Binary64.stepsPerOne == 0
  | _ => false

/-- Whether a value has the type of this name: one of the six types of values, or `integer`. -/
def hasType (value : Json) (name : String) : Bool :=
  value.typeName == name || (name == "integer" && isWhole value)

/-- What `type` admits: values of the type it names, or of one of the types it lists. -/
def typeAdmits (value : Json) : Json → Bool
  | .string name => hasType value name
  | .array names => names.any fun name => (name.asString?.map (hasType value)).getD false
  | _ => false

/-- What `required` admits: objects with all the members it lists, and whatever is no object. -/
def requiredAdmits : Json → Json → Bool
  | .object members, .array names => names.all fun name =>
    (name.asString?.map fun name => (Members.find? members name).isSome).getD false
  | _, _ => true

/-- Whether a keyword other than `properties` admits a value. -/
def admits (keyword : String) (argument value : Json) : Bool :=
  if keyword = "type" then typeAdmits value argument
  else if keyword = "required" then requiredAdmits value argument
  else true

mutual

/-- Whether a value is valid against a schema. -/
def accepts : Json → Json → Bool
  | .boolean flag, _ => flag
  | .object keywords, value => keywordsAdmit keywords value
  | _, _ => false
termination_by structural schema => schema

/-- Whether every keyword of a schema admits a value. -/
def keywordsAdmit : List (String × Json) → Json → Bool
  | [], _ => true
  | (keyword, argument) :: rest, value =>
    (if keyword = "properties" then propertiesAdmit argument value
      else admits keyword argument value) && keywordsAdmit rest value
termination_by structural keywords => keywords

/-- What `properties` admits, given its argument. -/
def propertiesAdmit : Json → Json → Bool
  | .object properties, value => membersAdmit properties value
  | _, _ => true
termination_by structural argument => argument

/-- Whether the members of these names are valid against the schemas that go with the names. A
member may be absent, and what is no object has no members. -/
def membersAdmit : List (String × Json) → Json → Bool
  | [], _ => true
  | (name, schema) :: rest, value =>
    ((value.get? name).map (accepts schema)).getD true && membersAdmit rest value
termination_by structural properties => properties

end

theorem membersAdmit_iff {properties : List (String × Json)} {value : Json} :
    membersAdmit properties value = true ↔ ∀ property ∈ properties, ∀ member,
      value.get? property.1 = some member → accepts property.2 member = true := by
  induction properties with
  | nil => simp [membersAdmit]
  | cons property rest ih =>
    rw [membersAdmit, Bool.and_eq_true, ih, List.forall_mem_cons]
    cases value.get? property.1 <;> simp

end ToolGateway.JsonSchema
