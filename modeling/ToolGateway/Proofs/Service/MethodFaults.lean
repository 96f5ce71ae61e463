import Mathlib.Data.List.Sort
import ToolGateway.Proofs.Service.Declaration
import ToolGateway.Service.Declaration

/-!
# Which methods can be declared, and the fault that is reported

A method can be declared when the names of its fields differ and the required names are among them.
`DeclarationFault` says what is wrong with any other declaration: a field whose name stood before comes
first, and only then the first required name that is no field. `declare_settled` says that a declaration
fails with its fault and nothing else, also if it is made in two passes over sets of names, and that a
declared method keeps of the required names only which they are: they are listed once each, in the order
of the fields, whatever their order and number in the declaration.
-/

namespace ToolGateway

/-! ## Sets of names -/

namespace NameSet

theorem contains_iff {set : NameSet} {name : String} :
    set.contains name = true ↔ name ∈ set.toList := List.contains_iff_mem

/-- Sets with the same names are equal. -/
theorem eq_iff {set other : NameSet} :
    set = other ↔ ∀ name, name ∈ set.toList ↔ name ∈ other.toList := by
  constructor
  · rintro rfl name
    rfl
  · intro same
    have lists : set.toList = other.toList :=
      set.increasing.eq_of_mem_iff other.increasing fun {name} => same name
    cases set
    cases other
    simpa using lists

theorem ofList_eq_iff {names others : List String} :
    ofList names = ofList others ↔ ∀ name, name ∈ names ↔ name ∈ others := by
  simp only [eq_iff, mem_ofList]

end NameSet

/-! ## What can be wrong -/

/-- The first of the required names that is not among the known ones. -/
def FirstStray (known required : List String) (name : String) : Prop :=
  ∃ before after, required = before ++ name :: after ∧ (∀ other ∈ before, other ∈ known) ∧
    name ∉ known

theorem find?_stray_eq_some_iff {known required : List String} {name : String} :
    (required.find? fun other => !known.contains other) = some name ↔
      FirstStray known required name := by
  simp only [List.find?_eq_some_iff_append, FirstStray, Bool.not_not, Bool.not_eq_true',
    ← Bool.not_eq_true, List.contains_iff_mem]
  constructor
  · rintro ⟨stray, before, after, split, inside⟩
    exact ⟨before, after, split, inside, stray⟩
  · rintro ⟨before, after, split, inside, stray⟩
    exact ⟨stray, before, after, split, inside⟩

namespace Method

/-- What is wrong with the declaration of a method with fields of these names. A repeated field is
reported before any required name is looked at. -/
inductive DeclarationFault (method : String) (names required : List String) :
    DeclarationError → Prop where
  | repeated {field : String} (repeated : FirstRepeated names field) :
      DeclarationFault method names required (.duplicateField method field)
  | stray {field : String} (differ : names.Nodup) (stray : FirstStray names required field) :
      DeclarationFault method names required (.unknownRequiredField method field)

variable {name : String} {fields : List Field} {required : List String}

theorem declare_eq_error_iff {error : DeclarationError} :
    declare name fields required = .error error ↔
      DeclarationFault name (fields.map Field.name) required error := by
  unfold declare
  split
  next field found =>
    have repeated := firstRepeated?_eq_some_iff.mp found
    constructor
    · intro refused
      obtain rfl := Except.error.inj refused
      exact .repeated repeated
    · intro fault
      cases fault with
      | repeated other =>
        rw [← firstRepeated?_eq_some_iff, found] at other
        obtain rfl := Option.some.inj other
        rfl
      | stray differ _ => exact absurd differ (exists_firstRepeated_iff.mp ⟨field, repeated⟩)
  next unrepeated =>
    have differ := firstRepeated?_eq_none_iff.mp unrepeated
    have noRepetition : ∀ field, ¬ FirstRepeated (fields.map Field.name) field :=
      fun field repeated => exists_firstRepeated_iff.mp ⟨field, repeated⟩ differ
    split
    next field found =>
      constructor
      · intro refused
        obtain rfl := Except.error.inj refused
        exact .stray differ (find?_stray_eq_some_iff.mp found)
      · intro fault
        cases fault with
        | repeated repeated => exact absurd repeated (noRepetition _)
        | stray _ other =>
          rw [← find?_stray_eq_some_iff, found] at other
          obtain rfl := Option.some.inj other
          rfl
    next found =>
      constructor
      · intro refused
        cases refused
      · intro fault
        cases fault with
        | repeated repeated => exact absurd repeated (noRepetition _)
        | stray _ stray =>
          rw [← find?_stray_eq_some_iff, found] at stray
          cases stray

/-! ## Two passes -/

/-- The pass over the fields goes on as the search for a repetition does, as long as the set holds the
names that the search has seen. -/
theorem foldlM_seeField {owner : String} {seen : NameSet} {known : List String}
    (same : ∀ name, name ∈ seen.toList ↔ name ∈ known) (fields : List Field) :
    fields.foldlM (seeField owner) seen =
      match firstRepeated?.go known (fields.map Field.name) with
      | some field => .error (.duplicateField owner field)
      | none => .ok ((fields.map Field.name).foldl NameSet.insert seen) := by
  induction fields generalizing seen known with
  | nil => rfl
  | cons field rest ih =>
    rw [List.foldlM_cons, List.map_cons, firstRepeated?.go, seeField]
    by_cases stood : field.name ∈ known
    · rw [if_pos (NameSet.contains_iff.mpr ((same _).mpr stood)), if_pos (by simpa using stood)]
      rfl
    · have fresh : ¬ seen.contains field.name = true :=
        fun held => stood ((same _).mp (NameSet.contains_iff.mp held))
      rw [if_neg fresh, if_neg (by simpa using stood)]
      refine ih fun name => ?_
      rw [NameSet.mem_insert, List.mem_cons, same]

/-- The pass over the required names breaks off at the first that is not in the set of the fields. -/
theorem foldlM_requireField {method : String} {seen : NameSet} {known : List String}
    (same : ∀ name, name ∈ seen.toList ↔ name ∈ known) (gathered : NameSet)
    (required : List String) :
    required.foldlM (requireField method seen) gathered =
      match required.find? fun field => !known.contains field with
      | some field => .error (.unknownRequiredField method field)
      | none => .ok (required.foldl NameSet.insert gathered) := by
  induction required generalizing gathered with
  | nil => rfl
  | cons field rest ih =>
    rw [List.foldlM_cons, requireField]
    by_cases held : field ∈ known
    · rw [if_pos (NameSet.contains_iff.mpr ((same _).mpr held)),
        List.find?_cons_of_neg (by simpa using held)]
      exact ih (gathered.insert field)
    · have missing : ¬ seen.contains field = true :=
        fun inside => held ((same _).mp (NameSet.contains_iff.mp inside))
      rw [if_neg missing, List.find?_cons_of_pos (by simpa using held)]
      rfl

theorem declareInPasses_eq (name : String) (fields : List Field) (required : List String) :
    declareInPasses name fields required = declare name fields required := by
  have empty : ∀ name, name ∈ NameSet.empty.toList ↔ name ∈ ([] : List String) := fun _ => Iff.rfl
  have seen : ∀ name, name ∈ ((fields.map Field.name).foldl NameSet.insert .empty).toList ↔
      name ∈ fields.map Field.name := fun _ => NameSet.mem_ofList
  rw [declareInPasses, foldlM_seeField empty, declare, firstRepeated?]
  cases firstRepeated?.go [] (fields.map Field.name) with
  | some field => rfl
  | none =>
    dsimp only [bind, Except.bind]
    rw [foldlM_requireField seen]
    cases required.find? fun field => !(fields.map Field.name).contains field with
    | some field => rfl
    | none => rfl

/-! ## Declared methods -/

theorem mem_requiredInOrder_iff {method : Method} {field : String} :
    field ∈ method.requiredInOrder ↔
      field ∈ method.fields.map Field.name ∧ method.isRequired field = true := List.mem_filter

/-- The names that a method requires are these. They are listed once each and in the order of the
fields. -/
structure Requires (method : Method) (required : List String) : Prop where
  isRequired_iff : ∀ field, method.isRequired field = true ↔ field ∈ required
  once : ∀ field ∈ required, method.requiredInOrder.count field = 1
  only : ∀ field ∈ method.requiredInOrder, field ∈ required
  ordered : method.requiredInOrder.Sublist (method.fields.map Field.name)

theorem requires_of_declare {method : Method} (declared : declare name fields required = .ok method) :
    method.Requires required := by
  obtain ⟨differ, known, rfl⟩ := declare_eq_ok_iff.mp declared
  have isRequired_iff : ∀ field,
      isRequired ⟨name, "", fields, .ofList required, none, none⟩ field = true ↔ field ∈ required :=
    fun field => NameSet.contains_iff.trans NameSet.mem_ofList
  have ordered : requiredInOrder ⟨name, "", fields, .ofList required, none, none⟩ |>.Sublist
      (fields.map Field.name) := List.filter_sublist
  refine ⟨isRequired_iff, ?_, ?_, ordered⟩
  · intro field member
    refine List.count_eq_one_of_mem (differ.sublist ordered) (mem_requiredInOrder_iff.mpr ?_)
    exact ⟨known field member, (isRequired_iff field).mpr member⟩
  · intro field member
    exact (isRequired_iff field).mp (mem_requiredInOrder_iff.mp member).2

/-- Another list of required names declares the same method exactly when it has the same names. -/
theorem declare_congr_iff {method : Method} (declared : declare name fields required = .ok method)
    (others : List String) : declare name fields others = .ok method ↔
      ∀ field, field ∈ others ↔ field ∈ required := by
  obtain ⟨differ, known, rfl⟩ := declare_eq_ok_iff.mp declared
  rw [declare_eq_ok_iff]
  constructor
  · rintro ⟨-, -, same⟩
    exact fun field => (NameSet.ofList_eq_iff.mp (congrArg Method.required same) field).symm
  · intro same
    refine ⟨differ, fun field member => known field ((same field).mp member), ?_⟩
    rw [NameSet.ofList_eq_iff.mpr same]

/-- **Declarations are settled.** A method can be declared exactly when the names of its fields differ
and each required name is one of them. Otherwise the first repeated field is reported, or, if no field
is, the first required name that is no field; and two passes over sets of names come to the same. A
declared method has the fields as they were given and lists the required names, each once and in the
order of the fields, and nothing else; so the order of the required names and their repetitions make
no difference, and nothing but the names does. -/
theorem declare_settled (name : String) (fields : List Field) (required : List String) :
    let names := fields.map Field.name
    ((∃ method, declare name fields required = .ok method) ↔
      names.Nodup ∧ ∀ field ∈ required, field ∈ names) ∧
    (∀ error, declare name fields required = .error error ↔
      DeclarationFault name names required error) ∧
    declareInPasses name fields required = declare name fields required ∧
    ∀ method, declare name fields required = .ok method →
      method.name = name ∧ method.fields = fields ∧ method.Requires required ∧
        ∀ others, declare name fields others = .ok method ↔
          ∀ field, field ∈ others ↔ field ∈ required := by
  intro names
  refine ⟨?_, fun error => declare_eq_error_iff, declareInPasses_eq name fields required, ?_⟩
  · simp only [declare_eq_ok_iff]
    exact ⟨fun ⟨_, differ, known, _⟩ => ⟨differ, known⟩,
      fun ⟨differ, known⟩ => ⟨_, differ, known, rfl⟩⟩
  · intro method declared
    have requires := requires_of_declare declared
    have congr := declare_congr_iff declared
    obtain ⟨-, -, rfl⟩ := declare_eq_ok_iff.mp declared
    exact ⟨rfl, rfl, requires, congr⟩

/-- The required names `roles` and `id` are listed in the order of the fields. -/
example : (declare "UpdateUser" [.ofKind "id" .string, .ofKind "name" .string, .ofKind "roles" .array]
    ["roles", "id", "roles"]).map requiredInOrder = .ok ["id", "roles"] := by
  decide +kernel

end Method

end ToolGateway
