import ToolGateway.Proofs.Service.Names

/-!
# Declared methods

`Method.declare` builds a method exactly when its field names differ and its required names are
among them. A method is `Declared` when it was built so; its description and the names of its
messages may have been set afterwards, since they play no part in what it takes.
-/

namespace ToolGateway.Method

theorem declare_eq_ok_iff {name : String} {fields : List Field} {required : List String}
    {method : Method} : declare name fields required = .ok method ↔
      (fields.map Field.name).Nodup ∧ (∀ field ∈ required, field ∈ fields.map Field.name) ∧
        method = ⟨name, "", fields, .ofList required, none, none⟩ := by
  rw [← firstRepeated?_eq_none_iff, declare]
  split
  next found => simp [found]
  next found =>
    split
    next stray missing =>
      have outside := List.find?_some missing
      have named := List.mem_of_find?_eq_some missing
      constructor
      · intro built
        cases built
      · rintro ⟨-, known, -⟩
        simp [known stray named] at outside
    next inside =>
      have known : ∀ field ∈ required, field ∈ fields.map Field.name := by
        intro field member
        simpa using List.find?_eq_none.mp inside field member
      constructor
      · intro built
        exact ⟨found, known, (Except.ok.inj built).symm⟩
      · rintro ⟨-, -, rfl⟩
        rfl

/-- A method built by `declare`, whatever was recorded about it afterwards. -/
def Declared (method : Method) : Prop :=
  ∃ required, declare method.name method.fields required =
    .ok { method with description := "", inputType := none, outputType := none }

theorem Declared.nodup {method : Method} (declared : method.Declared) :
    (method.fields.map Field.name).Nodup := by
  obtain ⟨required, built⟩ := declared
  exact (declare_eq_ok_iff.mp built).1

/-- Whether a name is one of the fields of a method. -/
def hasField (method : Method) (name : String) : Bool :=
  (method.fields.map Field.name).contains name

end ToolGateway.Method
