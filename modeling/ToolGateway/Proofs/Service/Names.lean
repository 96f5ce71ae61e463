import ToolGateway.Catalog.Resource
import ToolGateway.Catalog.Tool

/-!
# Names that differ

Methods, messages and fields are told apart by their names. `firstRepeated?` finds no name exactly
when all names differ, and then looking a thing up by its name finds that very thing.
-/

namespace ToolGateway

theorem firstRepeated?_go_eq_none_iff {seen names : List String} :
    firstRepeated?.go seen names = none ↔ names.Nodup ∧ ∀ name ∈ names, name ∉ seen := by
  induction names generalizing seen with
  | nil => simp [firstRepeated?.go]
  | cons name rest ih =>
    unfold firstRepeated?.go
    by_cases known : name ∈ seen
    · simp [known]
    · rw [if_neg (by simpa using known), ih, List.nodup_cons]
      constructor
      · rintro ⟨differ, fresh⟩
        refine ⟨⟨fun member => fresh name member List.mem_cons_self, differ⟩, ?_⟩
        intro other member
        rcases List.mem_cons.mp member with rfl | member
        · exact known
        · exact fun old => fresh other member (List.mem_cons_of_mem _ old)
      · rintro ⟨⟨alone, differ⟩, fresh⟩
        refine ⟨differ, fun other member old => ?_⟩
        rcases List.mem_cons.mp old with rfl | old
        · exact alone member
        · exact fresh other (List.mem_cons_of_mem _ member) old

/-- No name is repeated exactly when all names differ. -/
theorem firstRepeated?_eq_none_iff {names : List String} :
    firstRepeated? names = none ↔ names.Nodup := by
  rw [firstRepeated?, firstRepeated?_go_eq_none_iff]
  simp

/-! ## The first repetition -/

/-- A name stands in a list that stood in it before, and none before it did. -/
def FirstRepeated (names : List String) (name : String) : Prop :=
  ∃ before after, names = before ++ name :: after ∧ name ∈ before ∧ before.Nodup

theorem firstRepeated?_go_eq_some_iff {seen names : List String} {name : String} :
    firstRepeated?.go seen names = some name ↔ ∃ before after, names = before ++ name :: after ∧
      (name ∈ seen ∨ name ∈ before) ∧ before.Nodup ∧ ∀ other ∈ before, other ∉ seen := by
  induction names generalizing seen with
  | nil => simp [firstRepeated?.go]
  | cons first rest ih =>
    unfold firstRepeated?.go
    by_cases known : first ∈ seen
    · rw [if_pos (by simpa using known), Option.some.injEq]
      constructor
      · rintro rfl
        exact ⟨[], rest, rfl, .inl known, List.nodup_nil, by simp⟩
      · rintro ⟨before, after, split, -, -, fresh⟩
        cases before with
        | nil => exact (List.cons.inj split).1
        | cons other before =>
          obtain ⟨rfl, -⟩ := List.cons.inj split
          exact absurd known (fresh first List.mem_cons_self)
    · rw [if_neg (by simpa using known), ih]
      have moved : ∀ before : List String, name ∈ first :: seen ∨ name ∈ before ↔
          name ∈ seen ∨ name ∈ first :: before := by
        intro before
        simp only [List.mem_cons, or_assoc, or_left_comm]
      -- the names before the repetition are those before it in the rest, with `first` in front
      constructor
      · rintro ⟨before, after, rfl, stood, differ, fresh⟩
        refine ⟨first :: before, after, rfl, (moved before).mp stood, ?_, ?_⟩
        · exact List.nodup_cons.mpr ⟨fun member => fresh first member List.mem_cons_self, differ⟩
        · rw [List.forall_mem_cons]
          exact ⟨known, fun other member old => fresh other member (List.mem_cons_of_mem _ old)⟩
      · rintro ⟨before, after, split, stood, differ, fresh⟩
        cases before with
        | nil =>
          obtain ⟨rfl, -⟩ := List.cons.inj split
          exact absurd (stood.resolve_right List.not_mem_nil) known
        | cons other before =>
          obtain ⟨rfl, rfl⟩ := List.cons.inj split
          obtain ⟨alone, differ⟩ := List.nodup_cons.mp differ
          refine ⟨before, after, rfl, (moved before).mpr stood, differ, ?_⟩
          intro other member old
          rcases List.mem_cons.mp old with rfl | old
          · exact alone member
          · exact fresh other (List.mem_cons_of_mem _ member) old

theorem firstRepeated?_eq_some_iff {names : List String} {name : String} :
    firstRepeated? names = some name ↔ FirstRepeated names name := by
  rw [firstRepeated?, firstRepeated?_go_eq_some_iff]
  simp [FirstRepeated]

/-- Names do not all differ exactly when there is a first one that is repeated. -/
theorem exists_firstRepeated_iff {names : List String} :
    (∃ name, FirstRepeated names name) ↔ ¬ names.Nodup := by
  simp only [← firstRepeated?_eq_some_iff, ← firstRepeated?_eq_none_iff]
  exact Option.ne_none_iff_exists'.symm

section

variable {α : Type} (key : α → String) {items : List α}

/-- Among things whose names differ, looking one up by its name finds it. -/
theorem find?_name_of_nodup (differ : (items.map key).Nodup) {item : α} (member : item ∈ items) :
    items.find? (fun other => key other == key item) = some item := by
  induction items with
  | nil => cases member
  | cons first rest ih =>
    obtain ⟨alone, differ⟩ := List.nodup_cons.mp differ
    rcases List.mem_cons.mp member with rfl | member
    · simp
    · have : key first ≠ key item := fun same => alone (same ▸ List.mem_map_of_mem member)
      rw [List.find?_cons_of_neg (by simpa using this)]
      exact ih differ member

theorem name_of_find? {name : String} {item : α}
    (found : items.find? (fun other => key other == name) = some item) : key item = name := by
  simpa using List.find?_some found

/-- Among things whose names differ, a name finds the one that has it. -/
theorem find?_name_eq_some_iff (differ : (items.map key).Nodup) {name : String} {item : α} :
    items.find? (fun other => key other == name) = some item ↔ item ∈ items ∧ key item = name := by
  constructor
  · intro found
    exact ⟨List.mem_of_find?_eq_some found, name_of_find? key found⟩
  · rintro ⟨member, rfl⟩
    exact find?_name_of_nodup key differ member

/-- Among things whose names differ, a name finds the same in any order. -/
theorem find?_name_of_perm {others : List α} (perm : others.Perm items)
    (differ : (items.map key).Nodup) (name : String) :
    others.find? (fun item => key item == name) = items.find? fun item => key item == name := by
  have differ' : (others.map key).Nodup := (perm.map key).nodup_iff.mpr differ
  ext item
  rw [find?_name_eq_some_iff key differ', find?_name_eq_some_iff key differ, perm.mem_iff]

end

theorem Tool.names_ofMethod (service : String) (methods : List Method) :
    (methods.map (Tool.ofMethod service)).map Tool.name = methods.map Method.name := by
  rw [List.map_map]
  rfl

/-- A tool catalog is built exactly when the methods have different names, and then of all of them. -/
theorem ToolCatalog.ofDefinition_eq_ok_iff {definition : ServiceDefinition} {catalog : ToolCatalog} :
    ofDefinition definition = .ok catalog ↔ (definition.methods.map Method.name).Nodup ∧
      catalog = ⟨definition.name, definition.methods.map (Tool.ofMethod definition.name)⟩ := by
  rw [← firstRepeated?_eq_none_iff, ofDefinition]
  split
  next found => simp [found]
  next found => simp [found, eq_comm]

/-- A tool catalog that is not built is refused for the first method name that is repeated. -/
theorem ToolCatalog.ofDefinition_eq_error_iff {definition : ServiceDefinition}
    {error : CatalogError} : ofDefinition definition = .error error ↔
      ∃ name, FirstRepeated (definition.methods.map Method.name) name ∧
        error = .duplicateTool definition.name name := by
  simp only [← firstRepeated?_eq_some_iff, ofDefinition]
  split
  next found => simp [found, eq_comm]
  next found => simp [found]

/-- A resource catalog is built exactly when the messages picked have different names, and then of
all of them. -/
theorem ResourceCatalog.ofDefinition_eq_ok_iff {definition : ServiceDefinition}
    {selection : ResourceSelection} {catalog : ResourceCatalog} :
    ofDefinition definition selection = .ok catalog ↔
      ((definition.messages.filter (selection.picks definition)).map Message.name).Nodup ∧
        catalog = ⟨(definition.messages.filter (selection.picks definition)).map
          (ResourceType.ofMessage definition.package)⟩ := by
  rw [← firstRepeated?_eq_none_iff]
  simp only [ofDefinition]
  split
  next found => simp [found]
  next found => simp [found, eq_comm]

/-- A resource catalog that is not built is refused for the first name picked that is repeated. -/
theorem ResourceCatalog.ofDefinition_eq_error_iff {definition : ServiceDefinition}
    {selection : ResourceSelection} {error : CatalogError} :
    ofDefinition definition selection = .error error ↔ ∃ name, FirstRepeated
      ((definition.messages.filter (selection.picks definition)).map Message.name) name ∧
        error = .duplicateResource name := by
  simp only [← firstRepeated?_eq_some_iff, ofDefinition]
  split
  next found => simp [found, eq_comm]
  next found => simp [found]

end ToolGateway
