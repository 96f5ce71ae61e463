import Mathlib.Data.List.Basic
import ToolGateway.Proofs.Service.Names

/-!
# Which messages are listed as resources

A selection selects messages one by one: entities always, and with payloads also those that a method
takes or gives. `ofDefinition_selects` says that the catalog lists just the selected messages, in
their order, and that only two of them with one name stand in its way. A message may be declared
several times; what counts is how often it is selected. So more methods can only add resources or make
a catalog impossible, and the order of the methods does not matter.
-/

namespace ToolGateway

namespace ResourceSelection

/-- Which messages of a service a selection selects. -/
inductive Selects (definition : ServiceDefinition) (message : Message) :
    ResourceSelection → Prop where
  | entity {selection : ResourceSelection} (marked : message.entity = true) :
      Selects definition message selection
  | payload {method : Method} (member : method ∈ definition.methods)
      (used : method.inputType = some message.name ∨ method.outputType = some message.name) :
      Selects definition message .entitiesAndPayloads

variable {definition : ServiceDefinition} {message : Message} {selection : ResourceSelection}

theorem mem_payloads_iff {name : String} : name ∈ payloads definition ↔
    ∃ method ∈ definition.methods,
      method.inputType = some name ∨ method.outputType = some name := by
  simp [payloads]

theorem picks_eq_true_iff :
    selection.picks definition message = true ↔ selection.Selects definition message := by
  unfold picks
  rw [Bool.or_eq_true]
  constructor
  · rintro (marked | used)
    · exact .entity marked
    · cases selection with
      | entities => cases used
      | entitiesAndPayloads =>
        obtain ⟨method, member, used⟩ := mem_payloads_iff.mp (List.contains_iff_mem.mp used)
        exact .payload member used
  · intro selects
    cases selects with
    | entity marked => exact .inl marked
    | payload member used =>
      exact .inr (List.contains_iff_mem.mpr (mem_payloads_iff.mpr ⟨_, member, used⟩))

instance : Decidable (selection.Selects definition message) :=
  decidable_of_iff _ picks_eq_true_iff

/-- The messages that a selection selects, in the order of their declaration. -/
def selected (selection : ResourceSelection) (definition : ServiceDefinition) : List Message :=
  definition.messages.filter fun message => selection.Selects definition message

theorem filter_picks (selection : ResourceSelection) (definition : ServiceDefinition) :
    definition.messages.filter (selection.picks definition) = selection.selected definition := by
  refine List.filter_congr ?_
  intro message _
  rw [Bool.eq_iff_iff, picks_eq_true_iff, decide_eq_true_iff]

/-- With payloads, nothing that was selected is left out. -/
theorem selected_sublist (definition : ServiceDefinition) :
    (entities.selected definition).Sublist (entitiesAndPayloads.selected definition) := by
  refine List.monotone_filter_right _ ?_
  intro message selects
  rw [decide_eq_true_iff] at selects ⊢
  cases selects with
  | entity marked => exact .entity marked

/-- What is selected stays selected as long as no method is missing. -/
theorem Selects.of_methods {other : ServiceDefinition}
    (held : ∀ method ∈ definition.methods, method ∈ other.methods)
    (selects : selection.Selects definition message) : selection.Selects other message := by
  cases selects with
  | entity marked => exact .entity marked
  | payload member used => exact .payload (held _ member) used

/-- What is selected depends on which methods there are and not on their order. -/
theorem selected_of_perm {methods : List Method} (perm : methods.Perm definition.methods)
    (selection : ResourceSelection) :
    selection.selected { definition with methods := methods } = selection.selected definition := by
  refine List.filter_congr ?_
  intro message _
  rw [decide_eq_decide]
  exact ⟨.of_methods fun _ => perm.mem_iff.mp, .of_methods fun _ => perm.mem_iff.mpr⟩

end ResourceSelection

namespace ResourceCatalog

variable {definition : ServiceDefinition} {selection : ResourceSelection} {catalog : ResourceCatalog}

theorem ofDefinition_eq_ok_iff_selected : ofDefinition definition selection = .ok catalog ↔
    ((selection.selected definition).map Message.name).Nodup ∧
      catalog = ⟨(selection.selected definition).map (ResourceType.ofMessage definition.package)⟩ := by
  rw [ofDefinition_eq_ok_iff, ResourceSelection.filter_picks]

theorem names_ofMessage (package : String) (messages : List Message) :
    (messages.map (ResourceType.ofMessage package)).map ResourceType.typeName =
      messages.map Message.name := by
  rw [List.map_map]
  rfl

/-- In a catalog that was built, a name finds the one resource that has it. -/
theorem find?_eq_some_iff_mem (built : ofDefinition definition selection = .ok catalog)
    {name : String} {resource : ResourceType} :
    catalog.find? name = some resource ↔
      resource ∈ catalog.resources ∧ resource.typeName = name := by
  obtain ⟨differ, rfl⟩ := ofDefinition_eq_ok_iff_selected.mp built
  rw [← names_ofMessage definition.package] at differ
  exact find?_name_eq_some_iff ResourceType.typeName differ

/-- The catalog of the entities is built whenever that with the payloads is, and is a part of it. -/
theorem exists_entities_of_payloads
    (built : ofDefinition definition .entitiesAndPayloads = .ok catalog) :
    ∃ entities, ofDefinition definition .entities = .ok entities ∧
      entities.resources.Sublist catalog.resources := by
  obtain ⟨differ, rfl⟩ := ofDefinition_eq_ok_iff_selected.mp built
  have part := ResourceSelection.selected_sublist definition
  exact ⟨_, ofDefinition_eq_ok_iff_selected.mpr ⟨differ.sublist (part.map _), rfl⟩, part.map _⟩

theorem ofDefinition_of_perm {methods : List Method} (perm : methods.Perm definition.methods)
    (selection : ResourceSelection) :
    ofDefinition { definition with methods := methods } selection =
      ofDefinition definition selection := by
  simp only [ofDefinition, ResourceSelection.filter_picks,
    ResourceSelection.selected_of_perm perm]

/-- **Resource catalogs.** Under a selection, a service has a resource catalog exactly when the
messages that are selected have different names; otherwise it is refused for the first of their names
that an earlier one has. The catalog lists these messages and no others, in the order of the messages
and whatever the order of the methods, each under a URI of the package and its name, and each is found
by its name. If all payloads can be listed as well, then the entities alone can, and nothing but
further resources comes with the payloads. -/
theorem ofDefinition_selects (definition : ServiceDefinition) :
    (∀ selection : ResourceSelection,
      let names := (selection.selected definition).map Message.name
      ((∃ catalog, ofDefinition definition selection = .ok catalog) ↔ names.Nodup) ∧
      (∀ error, ofDefinition definition selection = .error error ↔
        ∃ name, FirstRepeated names name ∧ error = .duplicateResource name) ∧
      (∀ catalog, ofDefinition definition selection = .ok catalog →
        catalog.resources = (selection.selected definition).map (fun message =>
          ⟨message.name, definition.package ++ "://" ++ message.name, "application/json",
            "Resource type " ++ message.name⟩) ∧
        ∀ name resource, catalog.find? name = some resource ↔
          resource ∈ catalog.resources ∧ resource.typeName = name) ∧
      ∀ methods : List Method, methods.Perm definition.methods →
        ofDefinition { definition with methods := methods } selection =
          ofDefinition definition selection) ∧
    ∀ catalog, ofDefinition definition .entitiesAndPayloads = .ok catalog →
      ∃ entities, ofDefinition definition .entities = .ok entities ∧
        entities.resources.Sublist catalog.resources := by
  refine ⟨fun selection => ⟨?_, ?_, ?_, ?_⟩, fun catalog => exists_entities_of_payloads⟩
  · simp only [ofDefinition_eq_ok_iff_selected]
    exact ⟨fun ⟨_, differ, _⟩ => differ, fun differ => ⟨_, differ, rfl⟩⟩
  · intro error
    rw [ofDefinition_eq_error_iff, ResourceSelection.filter_picks]
  · intro catalog built
    refine ⟨?_, fun name resource => find?_eq_some_iff_mem built⟩
    rw [(ofDefinition_eq_ok_iff_selected.mp built).2]
    rfl
  · intro methods perm
    exact ofDefinition_of_perm perm selection

end ResourceCatalog

end ToolGateway
