import ToolGateway.Service.Descriptor

/-!
# Declarations in two passes

A method declared as its names are gone through: first those of the fields, which are kept in a set,
then the required ones, which are looked up in that set. Each pass breaks off at the first name that
it cannot take. This comes to what `Method.declare` comes to, which looks at the lists as wholes.
-/

namespace ToolGateway.Method

/-- Puts a field among those seen. Its name has to be new. -/
def seeField (owner : String) (seen : NameSet) (field : Field) : Except DeclarationError NameSet :=
  if seen.contains field.name then .error (.duplicateField owner field.name)
  else .ok (seen.insert field.name)

/-- Puts a name among the required ones. It has to be the name of a field that was seen. -/
def requireField (method : String) (seen required : NameSet) (field : String) :
    Except DeclarationError NameSet :=
  if seen.contains field then .ok (required.insert field)
  else .error (.unknownRequiredField method field)

/-- The method with these fields and required names, by one pass over each of the lists. -/
def declareInPasses (name : String) (fields : List Field) (required : List String) :
    Except DeclarationError Method := do
  let seen ← fields.foldlM (seeField name) .empty
  let required ← required.foldlM (requireField name seen) .empty
  return ⟨name, "", fields, required, none, none⟩

end ToolGateway.Method
