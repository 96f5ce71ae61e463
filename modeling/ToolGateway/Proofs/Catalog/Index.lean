import ToolGateway.Catalog.Index
import ToolGateway.Proofs.Except
import ToolGateway.Proofs.Places

/-!
# Tools by their names

A tool catalog is a list of tools, and `ToolIndex` keeps the place of each of them beside the list. An
index is `Sound` when the places are those of the names (`Placed`). Adding a tool keeps this
(`Sound.add`), so every index that is built has it (`sound_of_foldlM_add`). `ofDefinition_indexed` says
which services have a catalog and how the others are refused, and that a catalog lists the methods one
by one and is searched as its index is read.
-/

namespace ToolGateway

/-! ## One pass over the methods -/

namespace ToolIndex

variable {service name : String} {index start final : ToolIndex} {method : Method}

/-- The place kept under a name is the place of the tool of that name. -/
def Sound (index : ToolIndex) : Prop :=
  ∀ name place, index.places.find? name = some place ↔
    ∃ tool, index.tools[place]? = some tool ∧ tool.name = name

theorem Sound.placed (sound : index.Sound) : Placed Tool.name index.tools index.places := sound

theorem sound_empty : empty.Sound := Placed.nil

theorem Sound.contains_iff (sound : index.Sound) :
    index.contains name = true ↔ name ∈ index.tools.map Tool.name := sound.placed.isSome_find?_iff

theorem Sound.add_eq_ok_iff (sound : index.Sound) {next : ToolIndex} :
    add service index method = .ok next ↔ method.name ∉ index.tools.map Tool.name ∧
      next = ⟨index.tools ++ [Tool.ofMethod service method],
        index.places.put method.name index.tools.length⟩ := by
  rw [← sound.contains_iff, add]
  split
  next known => simp [known]
  next fresh => simp [fresh, eq_comm]

theorem Sound.add_eq_error_iff (sound : index.Sound) {error : CatalogError} :
    add service index method = .error error ↔ method.name ∈ index.tools.map Tool.name ∧
      error = .duplicateTool service method.name := by
  rw [← sound.contains_iff, add]
  split
  next known => simp [known, eq_comm]
  next fresh => simp [fresh]

/-- A tool with a new name, put behind the others, leaves all places where they are. -/
theorem Sound.add (sound : index.Sound) {next : ToolIndex}
    (added : add service index method = .ok next) : next.Sound := by
  obtain ⟨fresh, rfl⟩ := sound.add_eq_ok_iff.mp added
  have new : (Tool.ofMethod service method).name ∉ index.tools.map Tool.name := fresh
  exact sound.placed.concat new

/-- What a pass over methods comes to: it ends in a sound index of all tools. -/
theorem sound_of_foldlM_add {methods : List Method} (sound : start.Sound)
    (passed : methods.foldlM (ToolIndex.add service) start = .ok final) :
    final.Sound ∧ final.tools = start.tools ++ methods.map (Tool.ofMethod service) := by
  induction methods generalizing start with
  | nil =>
    obtain rfl := Except.ok.inj passed
    exact ⟨sound, by simp⟩
  | cons method methods ih =>
    rw [List.foldlM_cons] at passed
    obtain ⟨next, added, passed⟩ := bind_eq_ok_iff.mp passed
    obtain ⟨last, tools⟩ := ih (sound.add added) passed
    obtain ⟨-, rfl⟩ := sound.add_eq_ok_iff.mp added
    exact ⟨last, by rw [tools]; simp⟩

/-- A pass breaks off at the first name that is repeated, and for no other reason. -/
theorem foldlM_add_eq_error_iff {methods : List Method} {error : CatalogError} :
    methods.foldlM (ToolIndex.add service) empty = .error error ↔
      ∃ name, FirstRepeated (methods.map Method.name) name ∧
        error = .duplicateTool service name := by
  -- where a pass breaks off, the methods before have a sound index
  have broken : ∀ {cause}, methods.foldlM (ToolIndex.add service) empty = .error cause →
      ∃ name, FirstRepeated (methods.map Method.name) name ∧
        cause = .duplicateTool service name := by
    intro cause failed
    obtain ⟨before, method, after, index, split, passed, refused⟩ := foldlM_eq_error_iff.mp failed
    obtain ⟨sound, tools⟩ := sound_of_foldlM_add sound_empty passed
    obtain ⟨known, rfl⟩ := sound.add_eq_error_iff.mp refused
    have differ := sound.placed.nodup
    have names : index.tools.map Tool.name = before.map Method.name := by
      rw [tools]
      exact Tool.names_ofMethod service before
    rw [names] at known differ
    exact ⟨method.name, ⟨_, after.map Method.name, by simp [split], known, differ⟩, rfl⟩
  refine ⟨broken, ?_⟩
  rintro ⟨name, repeated, rfl⟩
  cases passed : methods.foldlM (ToolIndex.add service) empty with
  | error cause =>
    obtain ⟨other, alsoRepeated, rfl⟩ := broken passed
    rw [← firstRepeated?_eq_some_iff] at repeated alsoRepeated
    rw [Option.some.inj (repeated.symm.trans alsoRepeated)]
  | ok index =>
    obtain ⟨sound, tools⟩ := sound_of_foldlM_add sound_empty passed
    have differ := sound.placed.nodup
    rw [tools] at differ
    have alone : (methods.map Method.name).Nodup := Tool.names_ofMethod service methods ▸ differ
    exact absurd alone (exists_firstRepeated_iff.mp ⟨name, repeated⟩)

/-- The index of a service is that of all its methods. -/
theorem sound_of_ofDefinition {definition : ServiceDefinition}
    (built : ofDefinition definition = .ok index) :
    index.Sound ∧ index.tools = definition.methods.map (Tool.ofMethod definition.name) :=
  sound_of_foldlM_add sound_empty built

end ToolIndex

/-! ## Catalogs -/

/-- The tools of a catalog are those of the methods of a service, one by one and in their order. -/
structure ToolCatalog.Lists (catalog : ToolCatalog) (definition : ServiceDefinition) : Prop where
  tools : List.Forall₂ (fun method tool =>
    tool.method = { method with
      description := method.name ++ " method from " ++ definition.name ++ " service" } ∧
    tool.inputSchema = method.inputSchema) definition.methods catalog.tools
  definitions : List.Forall₂ (fun method (entry : ToolDefinition) =>
    entry.name = method.name ∧
    entry.description = method.name ++ " method from " ++ definition.name ++ " service" ∧
    entry.inputSchema = method.inputSchema) definition.methods catalog.definitions
  names : catalog.names = definition.methods.map Method.name
  size : catalog.size = definition.methods.length

/-- A catalog has one tool for each of its names, and for any other name none. -/
structure ToolCatalog.Distinguishes (catalog : ToolCatalog) : Prop where
  names : catalog.names.Nodup
  isSome_find?_iff : ∀ name, (catalog.find? name).isSome = true ↔ name ∈ catalog.names
  contains_iff : ∀ name, catalog.contains name = true ↔ name ∈ catalog.names
  find?_eq_some_iff : ∀ name tool,
    catalog.find? name = some tool ↔ tool ∈ catalog.tools ∧ tool.name = name

/-- An index keeps the places of the tools of a catalog and answers as the catalog does. -/
structure ToolIndex.Indexes (index : ToolIndex) (catalog : ToolCatalog) : Prop where
  tools : index.tools = catalog.tools
  places : ∀ name place, index.places.find? name = some place ↔
    ∃ inside : place < catalog.tools.length, catalog.tools[place].name = name
  find? : ∀ name, index.find? name = catalog.find? name
  contains : ∀ name, index.contains name = catalog.contains name

namespace ToolCatalog

variable {definition : ServiceDefinition} {catalog : ToolCatalog}

theorem lists_of_ofDefinition (built : ofDefinition definition = .ok catalog) :
    catalog.Lists definition := by
  obtain ⟨-, rfl⟩ := ofDefinition_eq_ok_iff.mp built
  refine ⟨?_, ?_, Tool.names_ofMethod _ _, List.length_map _⟩
  · rw [List.forall₂_map_right_iff]
    exact List.forall₂_same.mpr fun method _ => ⟨rfl, rfl⟩
  · rw [definitions, List.map_map, List.forall₂_map_right_iff]
    exact List.forall₂_same.mpr fun method _ => ⟨rfl, rfl, rfl⟩

theorem distinguishes_of_ofDefinition (built : ofDefinition definition = .ok catalog) :
    catalog.Distinguishes := by
  obtain ⟨differ, rfl⟩ := ofDefinition_eq_ok_iff.mp built
  rw [← Tool.names_ofMethod definition.name] at differ
  refine ⟨differ, ?_, ?_, ?_⟩
  · intro name
    simp [ToolCatalog.find?, ToolCatalog.names]
  · intro name
    simp [ToolCatalog.contains, ToolCatalog.names]
  · exact fun name tool => find?_name_eq_some_iff Tool.name differ

theorem indexes_of_ofDefinition {index : ToolIndex} (built : ofDefinition definition = .ok catalog)
    (indexed : ToolIndex.ofDefinition definition = .ok index) : index.Indexes catalog := by
  have distinguishes := distinguishes_of_ofDefinition built
  obtain ⟨sound, tools⟩ := ToolIndex.sound_of_ofDefinition indexed
  obtain ⟨-, rfl⟩ := ofDefinition_eq_ok_iff.mp built
  refine ⟨tools, ?_, ?_, ?_⟩
  · intro name place
    rw [sound.placed.find?_eq_some_iff_lt]
    simp only [tools]
  · intro name
    rw [ToolIndex.find?, sound.placed.lookup_eq, tools]
    rfl
  · intro name
    rw [Bool.eq_iff_iff, sound.contains_iff, distinguishes.contains_iff, tools]
    rfl

/-- **Tool catalogs and their index.** A service has a tool catalog exactly when the names of its
methods differ; otherwise it is refused for the first name that an earlier method has. One pass that
builds the index on the way comes to the same. A catalog lists the methods in their order, each with
its own schema, and finds one tool for each of their names and none for any other text. The index
keeps a place inside the list for each of these names and for nothing else, and what it finds there is
what the catalog finds. -/
theorem ofDefinition_indexed (definition : ServiceDefinition) :
    let names := definition.methods.map Method.name
    ((∃ catalog, ofDefinition definition = .ok catalog) ↔ names.Nodup) ∧
    (∀ error, ofDefinition definition = .error error ↔
      ∃ name, FirstRepeated names name ∧ error = .duplicateTool definition.name name) ∧
    (∀ error, ToolIndex.ofDefinition definition = .error error ↔
      ofDefinition definition = .error error) ∧
    ∀ catalog, ofDefinition definition = .ok catalog →
      catalog.Lists definition ∧ catalog.Distinguishes ∧
        ∃ index, ToolIndex.ofDefinition definition = .ok index ∧ index.Indexes catalog := by
  intro names
  have alike : ∀ error, ToolIndex.ofDefinition definition = .error error ↔
      ofDefinition definition = .error error := by
    intro error
    rw [ofDefinition_eq_error_iff]
    exact ToolIndex.foldlM_add_eq_error_iff
  refine ⟨?_, fun error => ofDefinition_eq_error_iff, alike, ?_⟩
  · simp only [ofDefinition_eq_ok_iff]
    exact ⟨fun ⟨_, differ, _⟩ => differ, fun differ => ⟨_, differ, rfl⟩⟩
  · intro catalog built
    refine ⟨lists_of_ofDefinition built, distinguishes_of_ofDefinition built, ?_⟩
    cases indexed : ToolIndex.ofDefinition definition with
    | error error =>
      rw [(alike error).mp indexed] at built
      cases built
    | ok index => exact ⟨index, rfl, indexes_of_ofDefinition built indexed⟩

end ToolCatalog

end ToolGateway
