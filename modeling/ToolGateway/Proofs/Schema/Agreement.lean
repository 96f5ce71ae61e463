import Mathlib.Data.List.Nodup
import ToolGateway.Proofs.Gateway.Dispatch
import ToolGateway.Proofs.Members
import ToolGateway.Proofs.Schema.Validity
import ToolGateway.Proofs.Service.Declaration

/-!
# Dispatch and the listed schemas agree

The schema that a listing shows for a tool is computed from the fields of its method, and a call of
the tool is checked field by field; neither looks at the other. `accepts_inputSchema_iff` says that a
value is valid against the schema exactly when it is an object that fits the method, and
`dispatch_agrees_with_schema` draws the conclusion for calls: the backend is reached exactly by the
valid ones, and exactly the others are refused for their arguments.
-/

namespace ToolGateway

open JsonSchema

theorem accepts_fieldSchema (field : Field) (value : Json) :
    accepts field.schema value = field.kind.accepts value := by
  rcases field with ⟨name, kind, description⟩
  cases kind <;> cases value <;>
    simp [Field.schema, FieldKind.toJson, FieldKind.name, FieldKind.accepts, accepts,
      keywordsAdmit, admits, typeAdmits, hasType, Json.typeName]

/-- The properties of a schema are put one after the other. -/
theorem properties_eq_putAll (fields : List Field) :
    fields.foldl (fun properties field => Members.put properties field.name field.schema) [] =
      Members.putAll [] (fields.map fun field => (field.name, field.schema)) := by
  rw [Members.putAll, List.foldl_map]

theorem names_properties (fields : List Field) :
    Members.names (fields.map fun field => (field.name, field.schema)) = fields.map Field.name := by
  simp [Members.names]

/-- The properties of the schema of a method whose field names differ. -/
theorem properties_of_nodup {fields : List Field} (differ : (fields.map Field.name).Nodup) :
    fields.foldl (fun properties field => Members.put properties field.name field.schema) [] =
      fields.map fun field => (field.name, field.schema) := by
  rw [properties_eq_putAll]
  exact Members.putAll_of_nodup [] _ (by rwa [List.nil_append, names_properties])

theorem requiredAdmits_object_iff {method : Method} {members : Json.Object} :
    requiredAdmits (.object members) (.strings method.requiredInOrder) = true ↔
      ∀ field ∈ method.fields, method.isRequired field.name = true →
        (Members.find? members field.name).isSome = true := by
  have either : ∀ name, (method.isRequired name = false ∨
      (Members.find? members name).isSome = true) ↔
        (method.isRequired name = true → (Members.find? members name).isSome = true) := by
    intro name
    cases method.isRequired name <;> simp
  simp [requiredAdmits, Json.strings, Json.asString?, Method.requiredInOrder, either]

/-- A value is valid against the schema of a declared method exactly when it is an object that fits
the method. -/
theorem accepts_inputSchema_iff {method : Method} (declared : method.Declared) {value : Json} :
    accepts method.inputSchema value = true ↔
      ∃ members, value = .object members ∧ method.Fits members := by
  have properties := properties_of_nodup declared.nodup
  have kinds : ∀ members : Json.Object,
      membersAdmit (method.fields.map fun field => (field.name, field.schema)) (.object members) =
          true ↔ ∀ field ∈ method.fields, ∀ member,
            Members.find? members field.name = some member → field.kind.accepts member = true := by
    intro members
    rw [membersAdmit_iff]
    simp only [List.forall_mem_map, accepts_fieldSchema]
    rfl
  cases value with
  | object members =>
    have opened : accepts method.inputSchema (.object members) = true ↔
        membersAdmit (method.fields.map fun field => (field.name, field.schema))
            (.object members) = true ∧
          requiredAdmits (.object members) (.strings method.requiredInOrder) = true := by
      simp [Method.inputSchema, properties, accepts, keywordsAdmit, propertiesAdmit, admits,
        typeAdmits, hasType, Json.typeName]
    rw [opened, kinds, requiredAdmits_object_iff]
    constructor
    · rintro ⟨kinds, present⟩
      exact ⟨members, rfl, fun field member => ⟨present field member, kinds field member⟩⟩
    · rintro ⟨_, ⟨rfl⟩, fits⟩
      exact ⟨fun field member => (fits field member).2, fun field member => (fits field member).1⟩
  | _ =>
    simp [Method.inputSchema, accepts, keywordsAdmit, admits, typeAdmits, hasType, isWhole,
      Json.typeName]

/-- A name that is no field makes no difference to whether arguments fit. -/
theorem Method.fits_put_iff {method : Method} {name : String}
    (extra : ∀ field ∈ method.fields, field.name ≠ name) {members : Json.Object} {value : Json} :
    method.Fits (Members.put members name value) ↔ method.Fits members := by
  have same : ∀ field ∈ method.fields, Members.find? (Members.put members name value) field.name =
      Members.find? members field.name := by
    intro field member
    rw [Members.find?_put, if_neg (extra field member)]
  constructor
  · intro fits field member
    have := fits field member
    rwa [same field member] at this
  · intro fits field member
    rw [same field member]
    exact fits field member

/-- A listed tool is found under its name, and its entry shows the schema of its method. -/
theorem exists_method_of_listed {definition : ServiceDefinition} {catalog : ToolCatalog}
    (built : ToolCatalog.ofDefinition definition = .ok catalog) {entry : ToolDefinition}
    (listed : entry ∈ catalog.definitions) :
    ∃ method ∈ definition.methods, entry.name = method.name ∧
      entry.inputSchema = method.inputSchema ∧
        catalog.find? entry.name = some (Tool.ofMethod definition.name method) := by
  obtain ⟨tool, held, rfl⟩ := List.mem_map.mp listed
  have found := ToolCatalog.find?_of_mem built held
  obtain ⟨-, rfl⟩ := ToolCatalog.ofDefinition_eq_ok_iff.mp built
  obtain ⟨method, member, rfl⟩ := List.mem_map.mp held
  exact ⟨method, member, rfl, rfl, found⟩

/-! ## Calls of listed tools -/

section

variable {definition : ServiceDefinition} {catalog : ToolCatalog} {entry : ToolDefinition}

/-- A value is valid against a listed schema exactly when it is an object that fits the method. -/
theorem accepts_listed_iff (declared : ∀ method ∈ definition.methods, method.Declared)
    (built : ToolCatalog.ofDefinition definition = .ok catalog)
    (listed : entry ∈ catalog.definitions) {method : Method} (member : method ∈ definition.methods)
    (named : method.name = entry.name) {value : Json} :
    accepts entry.inputSchema value = true ↔
      ∃ members, value = .object members ∧ method.Fits members := by
  obtain ⟨own, ownMember, ownName, shown, -⟩ := exists_method_of_listed built listed
  obtain ⟨differ, -⟩ := ToolCatalog.ofDefinition_eq_ok_iff.mp built
  have same : method = own :=
    List.inj_on_of_nodup_map differ member ownMember (named.trans ownName)
  rw [shown, ← same]
  exact accepts_inputSchema_iff (declared method member)

/-- A name that is no field of the method changes no verdict of the listed schema. -/
theorem accepts_listed_put (declared : ∀ method ∈ definition.methods, method.Declared)
    (built : ToolCatalog.ofDefinition definition = .ok catalog)
    (listed : entry ∈ catalog.definitions) {method : Method} (member : method ∈ definition.methods)
    (named : method.name = entry.name) {name : String}
    (extra : ∀ field ∈ method.fields, field.name ≠ name) (members : Json.Object) (value : Json) :
    accepts entry.inputSchema (.object (Members.put members name value)) =
      accepts entry.inputSchema (.object members) := by
  have verdict := @accepts_listed_iff _ _ _ declared built listed method member named
  rw [Bool.eq_iff_iff, verdict, verdict]
  simp [Method.fits_put_iff extra]

variable {σ : Type} {arguments : Option Json}

/-- A call with valid arguments is one invocation of the backend under the name of the tool. -/
theorem exists_request_of_accepts (declared : ∀ method ∈ definition.methods, method.Declared)
    (built : ToolCatalog.ofDefinition definition = .ok catalog)
    (listed : entry ∈ catalog.definitions)
    (valid : accepts entry.inputSchema (argumentValue arguments) = true) (backend : Backend σ)
    (state : σ) :
    ∃ activity request, catalog.dispatch backend ⟨entry.name, arguments.getD .null⟩ state =
      (GatewayError.ofOutcome activity (backend.invoke entry.name request state).1,
        (backend.invoke entry.name request state).2) := by
  obtain ⟨method, member, named, -, found⟩ := exists_method_of_listed built listed
  obtain ⟨members, given, fits⟩ :=
    (accepts_listed_iff declared built listed member named.symm).mp valid
  rw [named] at found ⊢
  exact ⟨_, _, ToolCatalog.dispatch_of_fits ⟨method.name, arguments.getD .null⟩ found
    (Tool.argumentObject_eq_ok_iff.mpr given) fits backend state⟩

/-- A call with arguments that are not valid is refused for them and leaves the backend alone. -/
theorem exists_fault_of_not_accepts (declared : ∀ method ∈ definition.methods, method.Declared)
    (built : ToolCatalog.ofDefinition definition = .ok catalog)
    (listed : entry ∈ catalog.definitions)
    (invalid : accepts entry.inputSchema (argumentValue arguments) = false) (backend : Backend σ)
    (state : σ) :
    ∃ field message, catalog.dispatch backend ⟨entry.name, arguments.getD .null⟩ state =
      (.error (.invalidArguments entry.name field message), state) := by
  obtain ⟨method, member, named, -, found⟩ := exists_method_of_listed built listed
  have verdict := @accepts_listed_iff _ _ _ declared built listed method member named.symm
  have unfit : ∀ members, (Tool.ofMethod definition.name method).argumentObject
      (arguments.getD .null) = .ok members → ¬ method.Fits members := by
    intro members given fits
    have valid := verdict.mpr ⟨members, Tool.argumentObject_eq_ok_iff.mp given, fits⟩
    rw [invalid] at valid
    cases valid
  rw [named] at found ⊢
  exact ToolCatalog.dispatch_of_unfit ⟨method.name, arguments.getD .null⟩ found unfit backend state

/-- **Dispatch agrees with the listed schemas.** A call of a listed tool invokes the backend, and
then once and under the tool's name, exactly when its arguments are valid against the listed schema;
exactly the other calls are refused for their arguments, and they leave the backend as it is. So no
call reaches the backend without a required field or with a field that is not of its kind, and a name
that is no field changes no verdict. -/
theorem dispatch_agrees_with_schema (declared : ∀ method ∈ definition.methods, method.Declared)
    (built : ToolCatalog.ofDefinition definition = .ok catalog)
    (listed : entry ∈ catalog.definitions) (arguments : Option Json) (backend : Backend σ)
    (state : σ) :
    let run := catalog.dispatch backend.recorded ⟨entry.name, arguments.getD .null⟩ (state, [])
    let valid := accepts entry.inputSchema (argumentValue arguments)
    (valid = true ↔ ∃ request, run.2.2 = [.invoke entry.name request]) ∧
      (valid = false ↔ run.2 = (state, [])) ∧
      (valid = false ↔
        ∃ tool field message, run.1 = .error (.invalidArguments tool field message)) ∧
      ∀ method ∈ definition.methods, method.name = entry.name →
        (run.2.2 ≠ [] ↔
          ∃ members, argumentValue arguments = .object members ∧ method.Fits members) ∧
        ∀ members name value, (∀ field ∈ method.fields, field.name ≠ name) →
          accepts entry.inputSchema (.object (Members.put members name value)) =
            accepts entry.inputSchema (.object members) := by
  intro run valid
  cases accepted : valid with
  | true =>
    obtain ⟨activity, request, done⟩ :=
      exists_request_of_accepts declared built listed accepted backend.recorded (state, [])
    have called : run.2.2 = [.invoke entry.name request] := congrArg (fun result => result.2.2) done
    have passed : ∀ tool field message, run.1 ≠ .error (.invalidArguments tool field message) := by
      intro tool field message refused
      have first : run.1 = _ := congrArg Prod.fst done
      exact GatewayError.ofOutcome_ne_invalidArguments _ _ _ _ _ (first.symm.trans refused)
    refine ⟨?_, ?_, ?_, ?_⟩
    · simp [called]
    · have : run.2 ≠ (state, []) := fun same => by simp [same] at called
      simp [this]
    · simp [passed]
    · intro method member named
      have fits := (accepts_listed_iff declared built listed member named).mp accepted
      refine ⟨by simp [called, fits], ?_⟩
      intro members name value extra
      exact accepts_listed_put declared built listed member named extra members value
  | false =>
    obtain ⟨field, message, done⟩ :=
      exists_fault_of_not_accepts declared built listed accepted backend.recorded (state, [])
    have left : run.2 = (state, []) := congrArg Prod.snd done
    have refused : run.1 = .error (.invalidArguments entry.name field message) :=
      congrArg Prod.fst done
    refine ⟨?_, ?_, ?_, ?_⟩
    · simp [left]
    · simp [left]
    · simp only [true_iff]
      exact ⟨_, field, message, refused⟩
    · intro method member named
      have unfit : ¬ ∃ members, argumentValue arguments = .object members ∧ method.Fits members := by
        rw [← accepts_listed_iff declared built listed member named]
        exact Bool.eq_false_iff.mp accepted
      refine ⟨by simp [left, unfit], ?_⟩
      intro members name value extra
      exact accepts_listed_put declared built listed member named extra members value

end

/-- A method that takes a string and, if the caller likes, a list. -/
def grantMethod : Method where
  name := "Grant"
  description := ""
  fields := [.ofKind "id" .string, .ofKind "roles" .array]
  required := .ofList ["id"]
  inputType := none
  outputType := none

/-- A service with that method alone. -/
def grantService : ServiceDefinition where
  package := "grants.v1"
  name := "Grants"
  methods := [grantMethod]
  messages := []

/-- The tool that the method becomes. -/
def grantTool : Tool := Tool.ofMethod "Grants" grantMethod

/-- The catalog of the service. -/
def grantCatalog : ToolCatalog := ⟨"Grants", [grantTool]⟩

theorem ofDefinition_grantService : ToolCatalog.ofDefinition grantService = .ok grantCatalog := rfl

theorem grantTool_listed : grantTool ∈ grantCatalog.tools := List.mem_singleton_self grantTool

theorem grantMethod_declared : grantMethod.Declared := ⟨["id"], rfl⟩

/-- A backend that answers nothing. -/
def silentBackend : Backend Unit := ⟨fun _ _ _ => (.aborted, ()), fun _ _ => (.aborted, ())⟩

/-- A `null` in place of the list is refused although the required string is there. -/
theorem dispatch_agrees_with_schema_grant :
    ∃ catalog entry, (∀ method ∈ grantService.methods, method.Declared) ∧
      ToolCatalog.ofDefinition grantService = .ok catalog ∧ entry ∈ catalog.definitions ∧
      ∃ tool field message, (catalog.dispatch silentBackend.recorded
        ⟨entry.name, .object [("roles", .null), ("id", .string "1")]⟩ ((), [])).1 =
          .error (.invalidArguments tool field message) := by
  have declared : ∀ method ∈ grantService.methods, method.Declared := by
    intro method member
    obtain rfl := List.mem_singleton.mp member
    exact ⟨["id"], rfl⟩
  have built : ToolCatalog.ofDefinition grantService =
      .ok ⟨"Grants", [Tool.ofMethod "Grants" grantMethod]⟩ := rfl
  have listed : (Tool.ofMethod "Grants" grantMethod).definition ∈
      ToolCatalog.definitions ⟨"Grants", [Tool.ofMethod "Grants" grantMethod]⟩ :=
    List.mem_singleton_self _
  refine ⟨_, _, declared, built, listed, ?_⟩
  have law := dispatch_agrees_with_schema declared built listed
    (some (.object [("roles", .null), ("id", .string "1")])) silentBackend ()
  exact law.2.2.1.mp (by decide)

end ToolGateway
