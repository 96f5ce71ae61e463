import ToolGateway.Proofs.Catalog.Selection
import ToolGateway.Proofs.Places
import ToolGateway.Proofs.Service.Faults
import ToolGateway.Service.MessageIndex

/-!
# The order of the messages does not matter to the methods

Methods name the messages that they take and give. While a file is resolved, messages are found by the
places that a `MessageIndex` keeps. Every place changes when the messages of the file change places, and
yet the methods come out the same, because what is found under a name is what a search for the name
finds (`MessageIndex.Sound.find?_eq`), and among messages whose names differ a search does not depend
on their order (`find?_name_of_perm`).

* `resolveIndexed_eq`: a file resolves by places to what it resolves to by searching, errors included.
* `resolve_permuted`: the messages of a file that resolves may be put in any order. Methods and tools
  stay as they are, and the resources follow the messages.
-/

namespace ToolGateway

/-! ## One pass over the messages -/

namespace MessageIndex

variable {index start final : MessageIndex} {entry : MessageEntry} {entries : List MessageEntry}

/-- The place kept under a name is the place of the message of that name. -/
def Sound (index : MessageIndex) : Prop := Placed Message.name index.messages index.places

theorem sound_empty : empty.Sound := Placed.nil

theorem Sound.find?_eq (sound : index.Sound) :
    index.find? = fun name => index.messages.find? fun message => message.name == name :=
  funext sound.lookup_eq

/-- An entry is added by its place as it is added by a search, or refused for the same reason. -/
theorem Sound.map_add (sound : index.Sound) (entry : MessageEntry) :
    (index.add entry).map MessageIndex.messages = DefinitionFile.addMessage index.messages entry := by
  have known : index.contains entry.name =
      (index.messages.map Message.name).contains entry.name := by
    rw [Bool.eq_iff_iff, List.contains_iff_mem]
    exact sound.isSome_find?_iff
  unfold add DefinitionFile.addMessage
  rw [known]
  split
  · rfl
  · cases firstRepeated? (entry.fields.map FieldEntry.name) <;> rfl

theorem Sound.add (sound : index.Sound) {next : MessageIndex} (added : index.add entry = .ok next) :
    next.Sound := by
  unfold MessageIndex.add at added
  split at added
  · cases added
  next fresh =>
    split at added
    · cases added
    · obtain rfl := Except.ok.inj added
      exact sound.concat fun member => fresh (sound.isSome_find?_iff.mpr member)

/-- A pass by places comes to what a pass by searches comes to. -/
theorem map_foldlM_add (sound : start.Sound) (entries : List MessageEntry) :
    (entries.foldlM MessageIndex.add start).map MessageIndex.messages =
      entries.foldlM DefinitionFile.addMessage start.messages := by
  induction entries generalizing start with
  | nil => rfl
  | cons entry entries ih =>
    rw [List.foldlM_cons, List.foldlM_cons, ← sound.map_add entry]
    cases added : start.add entry with
    | error error => rfl
    | ok next => exact ih (sound.add added)

/-- A pass that does not break off ends in a sound index. -/
theorem sound_of_foldlM_add (sound : start.Sound)
    (passed : entries.foldlM MessageIndex.add start = .ok final) : final.Sound := by
  induction entries generalizing start with
  | nil =>
    obtain rfl := Except.ok.inj passed
    exact sound
  | cons entry entries ih =>
    rw [List.foldlM_cons] at passed
    obtain ⟨next, added, passed⟩ := bind_eq_ok_iff.mp passed
    exact ih (sound.add added) passed

theorem map_ofEntries (entries : List MessageEntry) :
    (ofEntries entries).map MessageIndex.messages =
      entries.foldlM DefinitionFile.addMessage [] := map_foldlM_add sound_empty entries

theorem sound_of_ofEntries (built : ofEntries entries = .ok index) : index.Sound :=
  sound_of_foldlM_add sound_empty built

end MessageIndex

namespace DefinitionFile

/-! ## Resolving by places -/

theorem resolveMethod_eq_resolve (messages : List Message) :
    resolveMethod messages =
      MethodEntry.resolve fun name => messages.find? fun message => message.name == name := rfl

theorem resolveIndexed_of_named {file : DefinitionFile} (package : file.package ≠ "")
    (service : file.service ≠ "") : file.resolveIndexed = (do
      let index ← MessageIndex.ofEntries file.messages
      let methods ← file.methods.mapM (MethodEntry.resolve index.find?)
      return ⟨file.package, file.service, methods, index.messages⟩) := by
  have named : file.package.isEmpty = false := by simpa using package
  have served : file.service.isEmpty = false := by simpa using service
  rw [resolveIndexed, named, served]
  rfl

/-- Finding messages by their places makes no difference, neither to a definition nor to an error. -/
theorem resolveIndexed_eq (file : DefinitionFile) : file.resolveIndexed = file.resolve := by
  by_cases package : file.package = ""
  · rw [resolve_of_no_package package, resolveIndexed, package]
    rfl
  by_cases service : file.service = ""
  · have named : file.package.isEmpty = false := by simpa using package
    rw [resolve_of_no_service package service, resolveIndexed, named, service]
    rfl
  rw [resolveIndexed_of_named package service, resolve_of_named package service,
    ← MessageIndex.map_ofEntries]
  cases built : MessageIndex.ofEntries file.messages with
  | error error => rfl
  | ok index =>
    have found := (MessageIndex.sound_of_ofEntries built).find?_eq
    show (do
      let methods ← file.methods.mapM (MethodEntry.resolve index.find?)
      return (⟨file.package, file.service, methods, index.messages⟩ : ServiceDefinition)) = _
    rw [found, ← resolveMethod_eq_resolve]
    rfl

/-! ## What a file resolves to -/

/-- A file resolves to its messages and the methods that are resolved with them. -/
theorem resolve_eq_ok_iff {file : DefinitionFile} {definition : ServiceDefinition} :
    file.resolve = .ok definition ↔ file.package ≠ "" ∧ file.service ≠ "" ∧
      SoundMessages file.messages ∧ ∃ methods,
        file.methods.mapM (resolveMethod (file.messages.map MessageEntry.message)) = .ok methods ∧
          definition =
            ⟨file.package, file.service, methods, file.messages.map MessageEntry.message⟩ := by
  constructor
  · intro resolved
    have wellFormed := exists_resolve_iff.mp ⟨definition, resolved⟩
    obtain ⟨-, -, taken⟩ := parts_of_resolve resolved
    exact ⟨wellFormed.package, wellFormed.service, wellFormed.messages, taken⟩
  · rintro ⟨package, service, sound, methods, taken, rfl⟩
    have added := addMessages_eq_ok_iff.mpr ⟨sound, rfl⟩
    rw [resolve_of_named package service]
    exact bind_eq_ok_iff.mpr ⟨_, added, bind_eq_ok_iff.mpr ⟨methods, taken, rfl⟩⟩

theorem SoundMessages.of_perm {entries others : List MessageEntry} (perm : others.Perm entries)
    (sound : SoundMessages entries) : SoundMessages others where
  names := (perm.map MessageEntry.name).nodup_iff.mpr sound.names
  fields entry member := sound.fields entry (perm.mem_iff.mp member)

/-- The message of a name is the same in any order. -/
theorem find?_message_of_perm {entries others : List MessageEntry} (perm : others.Perm entries)
    (sound : SoundMessages entries) (name : String) :
    (others.map MessageEntry.message).find? (fun message => message.name == name) =
      (entries.map MessageEntry.message).find? fun message => message.name == name := by
  have differ := sound.names
  rw [← names_messages] at differ
  exact find?_name_of_perm Message.name (perm.map MessageEntry.message) differ name

/-- Put in another order, the messages of a file are those of its definition, and nothing else
changes. -/
theorem resolve_of_perm {file : DefinitionFile} {definition : ServiceDefinition}
    (resolved : file.resolve = .ok definition) {messages : List MessageEntry}
    (perm : messages.Perm file.messages) :
    resolve { file with messages := messages } =
      .ok { definition with messages := messages.map MessageEntry.message } := by
  obtain ⟨package, service, sound, methods, taken, rfl⟩ := resolve_eq_ok_iff.mp resolved
  refine resolve_eq_ok_iff.mpr ⟨package, service, sound.of_perm perm, methods, ?_, rfl⟩
  rw [← taken, resolveMethod_eq_resolve, resolveMethod_eq_resolve]
  simp only [find?_message_of_perm perm sound]

end DefinitionFile

/-! ## What the order decides -/

/-- The resource type that a selection lists for a message of a file, if it selects the message. -/
def MessageEntry.listed (definition : ServiceDefinition) (selection : ResourceSelection)
    (entry : MessageEntry) : Option ResourceType :=
  if selection.Selects definition entry.message then
    some (ResourceType.ofMessage definition.package entry.message)
  else none

theorem ResourceSelection.selects_messages_iff {definition : ServiceDefinition} {message : Message}
    {messages : List Message} {selection : ResourceSelection} :
    selection.Selects { definition with messages := messages } message ↔
      selection.Selects definition message :=
  ⟨.of_methods fun _ => id, .of_methods fun _ => id⟩

theorem MessageEntry.listed_messages (definition : ServiceDefinition) (messages : List Message)
    (selection : ResourceSelection) :
    listed { definition with messages := messages } selection = listed definition selection := by
  funext entry
  simp only [listed, ResourceSelection.selects_messages_iff]

/-- The catalog of a definition lists the messages of its file entry by entry. -/
theorem ResourceCatalog.ofDefinition_of_entries {definition : ServiceDefinition}
    {entries : List MessageEntry} (messages : definition.messages = entries.map MessageEntry.message)
    (differ : (definition.messages.map Message.name).Nodup) (selection : ResourceSelection) :
    ofDefinition definition selection =
      .ok ⟨entries.filterMap (MessageEntry.listed definition selection)⟩ := by
  have part : ((selection.selected definition).map Message.name).Nodup :=
    differ.sublist (List.filter_sublist.map _)
  refine ofDefinition_eq_ok_iff_selected.mpr ⟨part, ?_⟩
  rw [ResourceSelection.selected, messages, List.filter_map, List.map_map, ← List.filterMap_eq_map,
    List.filterMap_filter]
  refine congrArg ResourceCatalog.mk (List.filterMap_congr fun entry _ => ?_)
  simp [MessageEntry.listed]

/-- A method has the fields and the required names of the message that it takes, as the definition
finds it, or has none of both. -/
structure ServiceDefinition.Supplies (definition : ServiceDefinition) (method : Method) : Prop where
  message : ∀ name, method.inputType = some name → ∃ message, definition.message? name = some message ∧
    method.fields = message.fields ∧ method.required = .ofList message.requiredNames ∧
      method.requiredInOrder = message.requiredNames
  nothing : method.inputType = none → method.fields = [] ∧ method.required = .empty

/-- An index keeps the places of the messages of a definition and finds what the definition finds. -/
structure MessageIndex.Indexes (index : MessageIndex) (definition : ServiceDefinition) : Prop where
  messages : index.messages = definition.messages
  places : ∀ name place, index.places.find? name = some place ↔
    ∃ inside : place < definition.messages.length, definition.messages[place].name = name
  find? : ∀ name, index.find? name = definition.message? name

namespace DefinitionFile

variable {file : DefinitionFile} {definition : ServiceDefinition}

theorem supplies_of_resolve (resolved : file.resolve = .ok definition) :
    ∀ method ∈ definition.methods, definition.Supplies method := by
  have named := (messages_of_resolve resolved).2.2.2
  obtain ⟨-, -, methods, taken, rfl⟩ := parts_of_resolve resolved
  intro method member
  obtain ⟨n, inside, rfl⟩ := List.getElem_of_mem member
  obtain ⟨sameLength, all⟩ := List.forall₂_iff_get.mp (mapM_eq_ok_iff.mp taken)
  have turned := all n (sameLength ▸ inside) inside
  obtain ⟨fields, required, -, made, taken⟩ := parts_of_resolveMethod turned
  rw [List.get_eq_getElem] at made
  rw [made]
  rcases taken with ⟨input, rfl, rfl⟩ | ⟨message, held, input, rfl, rfl⟩
  · refine ⟨fun name takes => ?_, fun _ => ⟨rfl, rfl⟩⟩
    cases input.symm.trans takes
  · refine ⟨fun name takes => ?_, fun bare => ?_⟩
    · obtain rfl := Option.some.inj (input.symm.trans takes)
      exact ⟨message, find?_name_of_nodup Message.name named held, rfl, rfl,
        Method.requiredInOrder_of_filter rfl⟩
    · cases input.symm.trans bare

theorem exists_indexes_of_resolve (resolved : file.resolve = .ok definition) :
    ∃ index, MessageIndex.ofEntries file.messages = .ok index ∧ index.Indexes definition := by
  obtain ⟨-, -, sound, methods, -, rfl⟩ := resolve_eq_ok_iff.mp resolved
  have added := addMessages_eq_ok_iff.mpr ⟨sound, rfl⟩
  rw [← MessageIndex.map_ofEntries] at added
  obtain ⟨index, built, messages⟩ := map_eq_ok_iff.mp added
  have placed := MessageIndex.sound_of_ofEntries built
  refine ⟨index, built, messages, ?_, ?_⟩
  · intro name place
    rw [placed.find?_eq_some_iff_lt]
    simp only [messages]
  · intro name
    rw [placed.find?_eq, messages]
    rfl

/-- **The order of the messages does not matter to the methods.** A file that resolves also resolves
with the places of its messages kept in an index, to the same definition, and the index finds under
each name what the definition finds. So each method has the fields and the required names of the
message that it takes, as the definition finds it. With its messages in any other order, the file
resolves as well, and to the same methods and the same tools. Of the resources, either file lists its
messages one by one, and of each message the same, so they change places as the messages do. -/
theorem resolve_permuted (resolved : file.resolve = .ok definition) :
    (file.resolveIndexed = .ok definition ∧
      ∃ index, MessageIndex.ofEntries file.messages = .ok index ∧ index.Indexes definition) ∧
    (∀ method ∈ definition.methods, definition.Supplies method) ∧
    ∀ messages : List MessageEntry, messages.Perm file.messages →
      ∃ permuted, resolve { file with messages := messages } = .ok permuted ∧
        permuted.package = definition.package ∧ permuted.name = definition.name ∧
        permuted.methods = definition.methods ∧
        permuted.messages = messages.map MessageEntry.message ∧
        (∀ name, permuted.message? name = definition.message? name) ∧
        ToolCatalog.ofDefinition permuted = ToolCatalog.ofDefinition definition ∧
        ∀ selection,
          ResourceCatalog.ofDefinition definition selection =
            .ok ⟨file.messages.filterMap (MessageEntry.listed definition selection)⟩ ∧
          ResourceCatalog.ofDefinition permuted selection =
            .ok ⟨messages.filterMap (MessageEntry.listed definition selection)⟩ := by
  obtain ⟨-, -, ordered, differ⟩ := messages_of_resolve resolved
  refine ⟨⟨(resolveIndexed_eq file).trans resolved, exists_indexes_of_resolve resolved⟩,
    supplies_of_resolve resolved, ?_⟩
  intro messages perm
  have again := resolve_of_perm resolved perm
  obtain ⟨-, -, ordered', differ'⟩ := messages_of_resolve again
  refine ⟨_, again, rfl, rfl, rfl, rfl, ?found, rfl, ?listed⟩
  case found =>
    intro name
    rw [ServiceDefinition.message?, ServiceDefinition.message?, ordered]
    exact find?_message_of_perm perm (resolve_eq_ok_iff.mp resolved).2.2.1 name
  case listed =>
    intro selection
    refine ⟨ResourceCatalog.ofDefinition_of_entries ordered differ selection, ?_⟩
    rw [ResourceCatalog.ofDefinition_of_entries ordered' differ' selection,
      MessageEntry.listed_messages]

/-- A file of a method that takes the first message and gives the second. -/
def turnFile : DefinitionFile :=
  ⟨"p", "S", [⟨"Page", false, pageFields⟩, ⟨"Book", true, [⟨"title", none, false, false⟩]⟩],
    [⟨"Turn", some "Page", some "Book"⟩]⟩

/-- With the second message in front, the method still has the fields of the page, and the resources
have changed places. -/
theorem resolve_permuted_turn : ∃ definition permuted,
    turnFile.resolve = .ok definition ∧
    resolve { turnFile with messages := turnFile.messages.reverse } = .ok permuted ∧
    permuted.methods = definition.methods ∧
    (permuted.methods.map fun method => (method.fields.map Field.name, method.requiredInOrder)) =
      [(["size", "mark"], ["size"])] ∧
    ∃ resources reordered,
      ResourceCatalog.ofDefinition definition .entitiesAndPayloads = .ok resources ∧
      ResourceCatalog.ofDefinition permuted .entitiesAndPayloads = .ok reordered ∧
      resources.resources.map ResourceType.typeName = ["Page", "Book"] ∧
      reordered.resources.map ResourceType.typeName = ["Book", "Page"] := by
  obtain ⟨definition, resolved, fields⟩ : ∃ definition, turnFile.resolve = .ok definition ∧
      (definition.methods.map fun method => (method.fields.map Field.name, method.requiredInOrder)) =
        [(["size", "mark"], ["size"])] := ⟨_, rfl, by decide⟩
  obtain ⟨-, -, reorders⟩ := resolve_permuted resolved
  obtain ⟨permuted, again, -, -, methods, -, -, -, catalogs⟩ :=
    reorders turnFile.messages.reverse (List.reverse_perm _)
  obtain ⟨before, after⟩ := catalogs .entitiesAndPayloads
  refine ⟨definition, permuted, resolved, again, methods, by rw [methods, fields], _, _, before, after,
    ?_, ?_⟩
  · obtain rfl := Except.ok.inj resolved
    decide
  · obtain rfl := Except.ok.inj resolved
    decide

end DefinitionFile

end ToolGateway
