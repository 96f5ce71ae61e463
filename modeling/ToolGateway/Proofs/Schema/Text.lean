import ToolGateway.Catalog.SchemaParts
import ToolGateway.Proofs.Json.RoundTrip
import ToolGateway.Proofs.Schema.Agreement
import ToolGateway.Proofs.Service.MethodFaults

/-!
# The text of a schema and the requests it describes

A schema is exact, so its text is read back as the schema and can be that of no other one. The schema
of a declared method shows each of its fields once and in their order, since no two properties have
one name, and the names that are required. So the text settles the fields and the required names, and
nothing else of the method makes a difference to it (`inputSchema_determines`).
-/

namespace ToolGateway

/-! ## Schemas are exact -/

theorem Field.exact_schema (field : Field) : field.schema.Exact 1 := by
  simp [Field.schema, FieldKind.toJson, Members.names]

theorem Method.exact_inputSchema (method : Method) : method.inputSchema.Exact 3 := by
  have none : (Members.names ([] : Json.Object)).Nodup := List.nodup_nil
  have listed : Json.Exact 2 (.object
      (Members.putAll [] (method.fields.map fun field => (field.name, field.schema)))) := by
    refine Json.exact_object_iff.mpr ⟨Members.nodup_putAll none _, ?_⟩
    intro entry member
    rcases Members.mem_of_mem_putAll member with none | member
    · cases none
    · obtain ⟨field, -, rfl⟩ := List.mem_map.mp member
      exact field.exact_schema
  rw [inputSchema, properties_eq_putAll]
  simp [Members.names, listed, Json.strings]

theorem Method.compact_inputSchema_iff (method other : Method) :
    method.inputSchema.compact = other.inputSchema.compact ↔
      method.inputSchema = other.inputSchema :=
  Json.compact_inj (method.exact_inputSchema.mono (by decide))
    (other.exact_inputSchema.mono (by decide))

/-! ## What a schema shows -/

theorem FieldKind.toJson_inj {kind other : FieldKind} : kind.toJson = other.toJson ↔ kind = other := by
  cases kind <;> cases other <;> simp [toJson, name]

/-- A property shows all of its field. -/
theorem Field.property_injective :
    Function.Injective fun field : Field => (field.name, field.schema) := by
  intro field other same
  obtain ⟨name, schema⟩ := Prod.mk.inj same
  simp only [Field.schema, Json.object.injEq, List.cons.injEq, Prod.mk.injEq, Json.string.injEq,
    true_and, and_true, FieldKind.toJson_inj] at schema
  cases field
  cases other
  simp_all

theorem Json.strings_injective : Function.Injective Json.strings := by
  intro names others same
  exact List.map_injective_iff.mpr (fun _ _ => Json.string.inj) (Json.array.inj same)

namespace Method

/-- The schema of a method whose field names differ shows the fields as they are. -/
theorem inputSchema_of_nodup {method : Method} (differ : (method.fields.map Field.name).Nodup) :
    method.inputSchema = .object [("type", .string "object"),
      ("properties", .object (method.fields.map fun field => (field.name, field.schema))),
      ("required", .strings method.requiredInOrder)] := by
  rw [inputSchema, properties_of_nodup differ]

/-- The required names of a declared method are those that it lists. -/
theorem Declared.isRequired_iff {method : Method} (declared : method.Declared) {name : String} :
    method.isRequired name = true ↔ name ∈ method.requiredInOrder := by
  obtain ⟨required, built⟩ := declared
  have requires := requires_of_declare built
  have known := (declare_eq_ok_iff.mp built).2.1
  rw [mem_requiredInOrder_iff]
  constructor
  · intro marked
    exact ⟨known name ((requires.isRequired_iff name).mp marked), marked⟩
  · exact fun listed => listed.2

theorem Declared.nodup_requiredInOrder {method : Method} (declared : method.Declared) :
    method.requiredInOrder.Nodup := declared.nodup.filter _

theorem inputSchema_eq_iff {method other : Method} (declared : method.Declared)
    (declared' : other.Declared) : method.inputSchema = other.inputSchema ↔
      method.fields = other.fields ∧ ∀ name, method.isRequired name = other.isRequired name := by
  rw [inputSchema_of_nodup declared.nodup, inputSchema_of_nodup declared'.nodup]
  constructor
  · intro same
    simp only [Json.object.injEq, List.cons.injEq, Prod.mk.injEq, true_and, and_true] at same
    obtain ⟨properties, required⟩ := same
    refine ⟨List.map_injective_iff.mpr Field.property_injective properties, fun name => ?_⟩
    rw [Bool.eq_iff_iff, declared.isRequired_iff, declared'.isRequired_iff,
      Json.strings_injective required]
  · rintro ⟨fields, required⟩
    have listed : method.requiredInOrder = other.requiredInOrder := by
      rw [requiredInOrder, requiredInOrder, fields, funext required]
    rw [fields, listed]

end Method

/-! ## One pass -/

namespace SchemaParts

variable {method : Method}

/-- What a pass over fields adds to the parts gathered before. -/
theorem foldl_add (parts : SchemaParts) (fields : List Field) :
    fields.foldl (add method) parts =
      ⟨fields.foldl (fun properties field => Members.put properties field.name field.schema)
          parts.properties,
        parts.required ++ ((fields.map Field.name).filter method.isRequired).map .string⟩ := by
  induction fields generalizing parts with
  | nil => simp
  | cons field rest ih =>
    rw [List.foldl_cons, ih, List.foldl_cons, List.map_cons]
    by_cases marked : method.isRequired field.name = true <;> simp [add, marked]

theorem toJson_ofMethod (method : Method) : (ofMethod method).toJson = method.inputSchema := by
  rw [ofMethod, foldl_add]
  rfl

end SchemaParts

/-- **The text of a schema determines what a method takes.** The texts of the schemas of two declared
methods are equal exactly when the methods have the same fields in the same order and the same required
names. The schema, which one pass over the fields gathers, shows each field under its name, in their
order and none merged with another or left out, and lists the required names as the method does, each
once and all of them names of properties. -/
theorem Method.inputSchema_determines {method other : Method} (declared : method.Declared)
    (declared' : other.Declared) :
    (method.inputSchema.compact = other.inputSchema.compact ↔
      method.fields = other.fields ∧ ∀ name, method.isRequired name = other.isRequired name) ∧
    (SchemaParts.ofMethod method).toJson = method.inputSchema ∧
    ∃ properties : Json.Object,
      method.inputSchema.get? "properties" = some (.object properties) ∧
      properties.names = method.fields.map Field.name ∧
      (∀ field ∈ method.fields, properties.find? field.name = some field.schema) ∧
      method.inputSchema.get? "required" = some (.strings method.requiredInOrder) ∧
      method.requiredInOrder.Nodup ∧
      ∀ name ∈ method.requiredInOrder, name ∈ properties.names := by
  have names := names_properties method.fields
  refine ⟨?_, SchemaParts.toJson_ofMethod method,
    method.fields.map fun field => (field.name, field.schema), ?_, names, ?_, rfl,
    declared.nodup_requiredInOrder, ?_⟩
  · rw [compact_inputSchema_iff, inputSchema_eq_iff declared declared']
  · rw [inputSchema_of_nodup declared.nodup]
    rfl
  · intro field member
    rw [Members.find?_eq_some_iff_mem (names ▸ declared.nodup)]
    exact List.mem_map_of_mem member
  · intro name member
    rw [names]
    exact (mem_requiredInOrder_iff.mp member).1

/-- Two fields. -/
def pairFields : List Field := [⟨"a", .string, "x"⟩, ⟨"b", .string, "y"⟩]

/-- One field whose description spells the second property of a schema. -/
def spelledFields : List Field :=
  [⟨"a", .string, "x\"\x7d,\"b\":\x7b\"type\":\"string\",\"description\":\"y"⟩]

/-- A description that spells a property is told from the property. -/
theorem Method.inputSchema_determines_spelled :
    ∃ pair spelled : Method, pair.Declared ∧ pair.fields = pairFields ∧ spelled.Declared ∧
      spelled.fields = spelledFields ∧ pair.inputSchema.compact ≠ spelled.inputSchema.compact := by
  have pair : Declared ⟨"Take", "", pairFields, .ofList [], none, none⟩ := ⟨[], rfl⟩
  have spelled : Declared ⟨"Take", "", spelledFields, .ofList [], none, none⟩ := ⟨[], rfl⟩
  refine ⟨_, _, pair, rfl, spelled, rfl, fun same => ?_⟩
  have alike := ((inputSchema_determines pair spelled).1.mp same).1
  exact absurd alike (by decide)

end ToolGateway
