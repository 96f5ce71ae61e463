import ToolGateway.Proofs.Service.Listing

/-!
# Which definitions can be served

A definition that was read from a text can be served unless two of its methods have the same name:
its messages have different names, and whatever its methods take or give is one of them. So the
resource catalog is always built, and with payloads selected it lists every message that a method
uses, once. `ofDefinition_of_ofText` says this of the entries of the definition file.
-/

namespace ToolGateway

/-- Whether a method of a file takes or gives the message of this name. -/
def MethodEntry.Uses (method : MethodEntry) (message : String) : Prop :=
  method.input = some message ∨ method.output = some message

namespace DefinitionFile

theorem mem_names_of_messageFor {messages : List Message} {method name : String} {message : Message}
    (found : messageFor messages method name = .ok message) : name ∈ messages.map Message.name := by
  obtain ⟨member, rfl⟩ := messageFor_eq_ok found
  exact List.mem_map_of_mem member

/-- What an entry that resolves uses is there. -/
theorem mem_names_of_resolveMethod {messages : List Message} {entry : MethodEntry} {method : Method}
    (resolved : resolveMethod messages entry = .ok method) {name : String} (used : entry.Uses name) :
    name ∈ messages.map Message.name := by
  rw [resolveMethod_eq] at resolved
  obtain ⟨parts, taken, resolved⟩ := bind_eq_ok_iff.mp resolved
  obtain ⟨⟨⟩, given, -⟩ := bind_eq_ok_iff.mp resolved
  rcases used with input | output
  · rw [inputParts, input] at taken
    obtain ⟨message, found, -⟩ := map_eq_ok_iff.mp taken
    exact mem_names_of_messageFor found
  · rw [checkOutput, output] at given
    obtain ⟨message, found, -⟩ := map_eq_ok_iff.mp given
    exact mem_names_of_messageFor found

variable {file : DefinitionFile} {definition : ServiceDefinition}

theorem names_of_resolve (resolved : file.resolve = .ok definition) :
    definition.methods.map Method.name = file.methods.map MethodEntry.name := by
  obtain ⟨-, -, methods, taken, rfl⟩ := parts_of_resolve resolved
  have same : List.Forall₂ (· = ·) (file.methods.map MethodEntry.name)
      (methods.map Method.name) := by
    rw [List.forall₂_map_left_iff, List.forall₂_map_right_iff]
    refine (mapM_eq_ok_iff.mp taken).imp ?_
    intro entry method resolved
    obtain ⟨_, _, -, rfl, -⟩ := parts_of_resolveMethod resolved
    rfl
  rw [List.forall₂_eq_eq_eq] at same
  exact same.symm

/-- The messages that the entries use are the payloads of the service, and all of them are there. -/
theorem mem_payloads_of_resolve (resolved : file.resolve = .ok definition) {entry : MethodEntry}
    (member : entry ∈ file.methods) {name : String} (used : entry.Uses name) :
    name ∈ definition.messages.map Message.name ∧
      name ∈ ResourceSelection.payloads definition := by
  obtain ⟨-, -, methods, taken, rfl⟩ := parts_of_resolve resolved
  obtain ⟨n, inside, rfl⟩ := List.getElem_of_mem member
  obtain ⟨sameLength, all⟩ := List.forall₂_iff_get.mp (mapM_eq_ok_iff.mp taken)
  have turned := all n inside (sameLength ▸ inside)
  refine ⟨mem_names_of_resolveMethod turned used, ?_⟩
  obtain ⟨fields, required, -, made, -⟩ := parts_of_resolveMethod turned
  refine List.mem_flatMap.mpr ⟨_, List.get_mem methods ⟨n, sameLength ▸ inside⟩, ?_⟩
  rw [made]
  simpa [MethodEntry.Uses, eq_comm] using used

end DefinitionFile

/-- If the resources can be listed, a gateway is refused exactly for its tools. -/
theorem Gateway.ofDefinition_eq_error_iff {definition : ServiceDefinition}
    {selection : ResourceSelection} {resources : ResourceCatalog}
    (listed : ResourceCatalog.ofDefinition definition selection = .ok resources)
    {error : CatalogError} : ofDefinition definition selection = .error error ↔
      ToolCatalog.ofDefinition definition = .error error := by
  unfold ofDefinition
  rw [listed]
  cases ToolCatalog.ofDefinition definition with
  | error other =>
    show Except.error other = .error error ↔ _
    simp
  | ok tools =>
    constructor
    · intro built
      cases built
    · intro built
      cases built

/-- **Which definitions can be served.** A text that loads is a definition file. Its resource catalogs
are all built, and no gateway to it is refused but for two methods of one name: then for the first
name that is repeated. With payloads selected, each message that a method takes or gives is listed
exactly once. -/
theorem ofDefinition_of_ofText {text : String} {definition : ServiceDefinition}
    (loaded : ServiceDefinition.ofText text = .ok definition) :
    ∃ document file, Toml.read? text = some document ∧
      DefinitionFile.decode (.table document) = .ok file ∧ file.resolve = .ok definition ∧
      (∀ selection,
        ((∃ error, Gateway.ofDefinition definition selection = .error error) ↔
          ¬ (file.methods.map MethodEntry.name).Nodup) ∧
        (∀ error, Gateway.ofDefinition definition selection = .error error ↔
          ∃ name, FirstRepeated (file.methods.map MethodEntry.name) name ∧
            error = .duplicateTool file.service name) ∧
        ∃ resources, ResourceCatalog.ofDefinition definition selection = .ok resources ∧
          ∀ gateway, Gateway.ofDefinition definition selection = .ok gateway →
            gateway.resources = resources) ∧
      ∃ resources,
        ResourceCatalog.ofDefinition definition .entitiesAndPayloads = .ok resources ∧
        ∀ method ∈ file.methods, ∀ message, method.Uses message →
          (resources.resources.map ResourceType.typeName).count message = 1 := by
  obtain ⟨document, file, found, decoded, resolved⟩ := ServiceDefinition.ofText_eq_ok_iff.mp loaded
  refine ⟨document, file, found, decoded, resolved, ?_⟩
  obtain ⟨-, service, -, differ⟩ := DefinitionFile.messages_of_resolve resolved
  have listed := ResourceCatalog.ofDefinition_of_nodup differ
  constructor
  · intro selection
    have refused : ∀ error, Gateway.ofDefinition definition selection = .error error ↔
        ∃ name, FirstRepeated (file.methods.map MethodEntry.name) name ∧
          error = .duplicateTool file.service name := by
      intro error
      rw [Gateway.ofDefinition_eq_error_iff (listed selection),
        ToolCatalog.ofDefinition_eq_error_iff, DefinitionFile.names_of_resolve resolved, service]
    refine ⟨?_, refused, _, listed selection, ?_⟩
    · simp only [refused, ← exists_firstRepeated_iff]
      constructor
      · rintro ⟨error, name, repeated, -⟩
        exact ⟨name, repeated⟩
      · rintro ⟨name, repeated⟩
        exact ⟨_, name, repeated, rfl⟩
    · intro gateway built
      obtain ⟨tools, -, built⟩ := bind_eq_ok_iff.mp built
      obtain ⟨resources, again, built⟩ := bind_eq_ok_iff.mp built
      obtain rfl := Except.ok.inj built
      exact Except.ok.inj (again.symm.trans (listed selection))
  · refine ⟨_, listed .entitiesAndPayloads, ?_⟩
    intro method member message used
    obtain ⟨there, payload⟩ := DefinitionFile.mem_payloads_of_resolve resolved member used
    obtain ⟨picked, held, rfl⟩ := List.mem_map.mp there
    rw [List.map_map]
    refine List.count_eq_one_of_mem (differ.sublist (List.filter_sublist.map _)) ?_
    refine List.mem_map.mpr ⟨picked, List.mem_filter.mpr ⟨held, ?_⟩, rfl⟩
    simp [ResourceSelection.picks, payload]

/-- A definition that declares two methods twice. -/
def twiceText : String :=
  "package=\"p\"\nservice=\"S\"\n[[messages]]\nname=\"Page\"\n" ++
    "[[methods]]\nname=\"Open\"\n[[methods]]\nname=\"Turn\"\ninput=\"Page\"\n" ++
    "[[methods]]\nname=\"Turn\"\noutput=\"Page\"\n[[methods]]\nname=\"Open\"\n"

/-- The file with that text. -/
def twiceFile : DefinitionFile :=
  ⟨"p", "S", [⟨"Page", false, []⟩], [⟨"Open", none, none⟩, ⟨"Turn", some "Page", none⟩,
    ⟨"Turn", none, some "Page"⟩, ⟨"Open", none, none⟩]⟩

/-- It is refused for the repetition that comes first, and its one message would be listed once. -/
theorem ofDefinition_of_ofText_twice : ∃ definition resources,
    ServiceDefinition.ofText twiceText = .ok definition ∧
    Gateway.ofDefinition definition .entities = .error (.duplicateTool "S" "Turn") ∧
    ResourceCatalog.ofDefinition definition .entitiesAndPayloads = .ok resources ∧
    (resources.resources.map ResourceType.typeName).count "Page" = 1 := by
  obtain ⟨document, read, decoded⟩ : ∃ document, Toml.read? twiceText = some document ∧
      DefinitionFile.decode (.table document) = .ok twiceFile :=
    DefinitionFile.exists_document (by decide +kernel)
  obtain ⟨definition, resolved⟩ : ∃ definition, twiceFile.resolve = .ok definition := ⟨_, rfl⟩
  have loaded :=
    ServiceDefinition.ofText_eq_ok_iff.mpr ⟨document, twiceFile, read, decoded, resolved⟩
  obtain ⟨document', file, read', decoded', -, built, resources, listed, once⟩ :=
    ofDefinition_of_ofText loaded
  obtain rfl : document' = document := Option.some.inj (read'.symm.trans read)
  obtain rfl : file = twiceFile := Except.ok.inj (decoded'.symm.trans decoded)
  have repeated : FirstRepeated (twiceFile.methods.map MethodEntry.name) "Turn" :=
    firstRepeated?_eq_some_iff.mp rfl
  exact ⟨definition, resources, loaded, ((built .entities).2.1 _).mpr ⟨_, repeated, rfl⟩, listed,
    once _ (.tail _ (.head _)) _ (.inl rfl)⟩

end ToolGateway
