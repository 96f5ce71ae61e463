import ToolGateway.Proofs.Service.Listing

/-!
# Which definition files resolve, and the fault that is reported

A definition file is `WellFormed` when it names its package and its service, when the names of its
messages differ, as do the names of the fields of each of them, and when its methods take and give
messages that it has. `FirstFault` says of any other file what is wrong first: package and service
come before the messages, message comes after message, and the methods are only looked at when all
messages are sound. `resolve_settled` says that a file resolves exactly when it is well-formed, and
that it fails with its first fault and nothing else.

A method is declared with the fields and the required names of a message that is sound by then, so
its declaration cannot fail (`exists_declare_of_inputParts`).
-/

namespace ToolGateway.DefinitionFile

/-! ## What a file has to be like -/

/-- The names of the messages differ, and so do the names of the fields of each message. -/
structure SoundMessages (entries : List MessageEntry) : Prop where
  names : (entries.map MessageEntry.name).Nodup
  fields : ∀ entry ∈ entries, (entry.fields.map FieldEntry.name).Nodup

/-- The messages that a method takes and gives are among those of these names. -/
structure SoundMethod (names : List String) (entry : MethodEntry) : Prop where
  input : ∀ name, entry.input = some name → name ∈ names
  output : ∀ name, entry.output = some name → name ∈ names

/-- A file without a fault. -/
structure WellFormed (file : DefinitionFile) : Prop where
  package : file.package ≠ ""
  service : file.service ≠ ""
  messages : SoundMessages file.messages
  methods : ∀ entry ∈ file.methods, SoundMethod (file.messages.map MessageEntry.name) entry

/-! ## What can be wrong -/

/-- What is wrong with a message that comes after messages of these names. Its own name is looked at
before the names of its fields. -/
inductive MessageFault (names : List String) (entry : MessageEntry) : DefinitionError → Prop where
  | repeated (known : entry.name ∈ names) : MessageFault names entry (.duplicateMessage entry.name)
  | field {field : String} (fresh : entry.name ∉ names)
      (repeated : FirstRepeated (entry.fields.map FieldEntry.name) field) :
      MessageFault names entry (.declaration (.duplicateField entry.name field))

/-- What is wrong with a method of a file with messages of these names. Its input is looked at before
its output. -/
inductive MethodFault (names : List String) (entry : MethodEntry) : DefinitionError → Prop where
  | input {name : String} (takes : entry.input = some name) (unknown : name ∉ names) :
      MethodFault names entry (.unknownMessage entry.name name)
  | output {name : String} (known : ∀ input, entry.input = some input → input ∈ names)
      (gives : entry.output = some name) (unknown : name ∉ names) :
      MethodFault names entry (.unknownMessage entry.name name)

/-- The fault of a file that comes first. -/
inductive FirstFault (file : DefinitionFile) : DefinitionError → Prop where
  | package (empty : file.package = "") : FirstFault file (.missingKey "package")
  | service (package : file.package ≠ "") (empty : file.service = "") :
      FirstFault file (.missingKey "service")
  | message {before after : List MessageEntry} {entry : MessageEntry} {error : DefinitionError}
      (package : file.package ≠ "") (service : file.service ≠ "")
      (split : file.messages = before ++ entry :: after) (sound : SoundMessages before)
      (fault : MessageFault (before.map MessageEntry.name) entry error) : FirstFault file error
  | method {before after : List MethodEntry} {entry : MethodEntry} {error : DefinitionError}
      (package : file.package ≠ "") (service : file.service ≠ "")
      (messages : SoundMessages file.messages) (split : file.methods = before ++ entry :: after)
      (sound : ∀ other ∈ before, SoundMethod (file.messages.map MessageEntry.name) other)
      (fault : MethodFault (file.messages.map MessageEntry.name) entry error) :
      FirstFault file error

/-! ## Messages -/

theorem addMessage_eq_error_iff {before : List Message} {entry : MessageEntry}
    {error : DefinitionError} : addMessage before entry = .error error ↔
      MessageFault (before.map Message.name) entry error := by
  unfold addMessage
  split
  next known =>
    have known : entry.name ∈ before.map Message.name := by simpa using known
    constructor
    · intro refused
      obtain rfl := Except.error.inj refused
      exact .repeated known
    · intro fault
      cases fault with
      | repeated _ => rfl
      | field fresh _ => exact absurd known fresh
  next fresh =>
    have fresh : entry.name ∉ before.map Message.name := by simpa using fresh
    split
    next field found =>
      have repeated := firstRepeated?_eq_some_iff.mp found
      constructor
      · intro refused
        obtain rfl := Except.error.inj refused
        exact .field fresh repeated
      · intro fault
        cases fault with
        | repeated known => exact absurd known fresh
        | field _ other =>
          obtain rfl := Option.some.inj (found.symm.trans (firstRepeated?_eq_some_iff.mpr other))
          rfl
    next none =>
      constructor
      · intro refused
        cases refused
      · intro fault
        cases fault with
        | repeated known => exact absurd known fresh
        | field _ other =>
          rw [firstRepeated?_eq_some_iff.mpr other] at none
          cases none

/-- Messages are all added exactly if they are sound. -/
theorem addMessages_eq_ok_iff {entries : List MessageEntry} {messages : List Message} :
    entries.foldlM addMessage [] = .ok messages ↔
      SoundMessages entries ∧ messages = entries.map MessageEntry.message := by
  have start : (([] : List Message).map Message.name).Nodup := List.nodup_nil
  rw [foldlM_addMessage_eq_ok_iff start, List.map_nil, List.nil_append, List.nil_append]
  constructor
  · rintro ⟨names, fields, same⟩
    exact ⟨⟨names, fields⟩, same⟩
  · rintro ⟨⟨names, fields⟩, same⟩
    exact ⟨names, fields, same⟩

theorem names_messages (entries : List MessageEntry) :
    (entries.map MessageEntry.message).map Message.name = entries.map MessageEntry.name := by
  rw [List.map_map]
  rfl

/-- The first message at fault decides. -/
theorem addMessages_eq_error_iff {entries : List MessageEntry} {error : DefinitionError} :
    entries.foldlM addMessage [] = .error error ↔ ∃ before entry after,
      entries = before ++ entry :: after ∧ SoundMessages before ∧
        MessageFault (before.map MessageEntry.name) entry error := by
  simp only [foldlM_eq_error_iff, addMessages_eq_ok_iff, addMessage_eq_error_iff]
  constructor
  · rintro ⟨before, entry, after, _, split, ⟨sound, rfl⟩, fault⟩
    rw [names_messages] at fault
    exact ⟨before, entry, after, split, sound, fault⟩
  · rintro ⟨before, entry, after, split, sound, fault⟩
    rw [← names_messages] at fault
    exact ⟨before, entry, after, _, split, ⟨sound, rfl⟩, fault⟩

/-! ## Methods -/

theorem messageFor_eq_error_iff {messages : List Message} {method name : String}
    {error : DefinitionError} : messageFor messages method name = .error error ↔
      name ∉ messages.map Message.name ∧ error = .unknownMessage method name := by
  have missing : (messages.find? fun message => message.name == name) = none ↔
      name ∉ messages.map Message.name := by
    simp
  unfold messageFor
  split
  next found =>
    rw [← missing, found]
    simp
  next none => simp [missing.mp none, eq_comm]

theorem exists_messageFor_iff {messages : List Message} (method : String) {name : String} :
    (∃ message, messageFor messages method name = .ok message) ↔
      name ∈ messages.map Message.name := by
  cases found : messageFor messages method name with
  | ok message =>
    obtain ⟨member, rfl⟩ := messageFor_eq_ok found
    exact iff_of_true ⟨message, rfl⟩ (List.mem_map_of_mem member)
  | error error =>
    have unknown := (messageFor_eq_error_iff.mp found).1
    exact iff_of_false (by simp) unknown

theorem inputParts_eq_error_iff {messages : List Message} {entry : MethodEntry}
    {error : DefinitionError} : inputParts messages entry = .error error ↔
      ∃ name, entry.input = some name ∧ name ∉ messages.map Message.name ∧
        error = .unknownMessage entry.name name := by
  unfold inputParts
  cases entry.input with
  | none => simp
  | some input => simp [map_eq_error_iff, messageFor_eq_error_iff]

theorem exists_inputParts_iff {messages : List Message} {entry : MethodEntry} :
    (∃ parts, inputParts messages entry = .ok parts) ↔
      ∀ name, entry.input = some name → name ∈ messages.map Message.name := by
  unfold inputParts
  cases entry.input with
  | none => simp
  | some input => simp [map_eq_ok_iff, ← exists_messageFor_iff entry.name]

theorem checkOutput_eq_error_iff {messages : List Message} {entry : MethodEntry}
    {error : DefinitionError} : checkOutput messages entry = .error error ↔
      ∃ name, entry.output = some name ∧ name ∉ messages.map Message.name ∧
        error = .unknownMessage entry.name name := by
  unfold checkOutput
  cases entry.output with
  | none => simp
  | some output => simp [map_eq_error_iff, messageFor_eq_error_iff]

theorem checkOutput_eq_ok_iff {messages : List Message} {entry : MethodEntry} :
    checkOutput messages entry = .ok () ↔
      ∀ name, entry.output = some name → name ∈ messages.map Message.name := by
  unfold checkOutput
  cases entry.output with
  | none => simp
  | some output => simp [map_eq_ok_iff, ← exists_messageFor_iff entry.name]

section

variable {entries : List MessageEntry} {entry : MethodEntry}

/-- What a method takes over from a sound message can be declared. -/
theorem exists_declare_of_inputParts (sound : SoundMessages entries)
    {parts : List Field × List String}
    (taken : inputParts (entries.map MessageEntry.message) entry = .ok parts) :
    ∃ method, Method.declare entry.name parts.1 parts.2 = .ok method := by
  suffices (parts.1.map Field.name).Nodup ∧ ∀ name ∈ parts.2, name ∈ parts.1.map Field.name from
    ⟨_, Method.declare_eq_ok_iff.mpr ⟨this.1, this.2, rfl⟩⟩
  unfold inputParts at taken
  split at taken
  next input =>
    obtain ⟨message, found, rfl⟩ := map_eq_ok_iff.mp taken
    obtain ⟨source, held, rfl⟩ := List.mem_map.mp (messageFor_eq_ok found).1
    refine ⟨?_, fun name required => List.mem_of_mem_filter required⟩
    rw [MessageEntry.names_fields]
    exact sound.fields source held
  next =>
    obtain rfl := Except.ok.inj taken
    exact ⟨List.nodup_nil, by simp⟩

/-- Among sound messages, a method resolves exactly if it only names messages that are there. -/
theorem exists_resolveMethod_iff (sound : SoundMessages entries) :
    (∃ method, resolveMethod (entries.map MessageEntry.message) entry = .ok method) ↔
      SoundMethod (entries.map MessageEntry.name) entry := by
  rw [resolveMethod_eq, ← names_messages]
  constructor
  · rintro ⟨method, resolved⟩
    obtain ⟨parts, taken, resolved⟩ := bind_eq_ok_iff.mp resolved
    obtain ⟨⟨⟩, checked, -⟩ := bind_eq_ok_iff.mp resolved
    exact ⟨exists_inputParts_iff.mp ⟨parts, taken⟩, checkOutput_eq_ok_iff.mp checked⟩
  · rintro ⟨input, output⟩
    obtain ⟨parts, taken⟩ := exists_inputParts_iff.mpr input
    obtain ⟨method, declared⟩ := exists_declare_of_inputParts sound taken
    exact ⟨_, bind_eq_ok_iff.mpr ⟨parts, taken, bind_eq_ok_iff.mpr ⟨(), checkOutput_eq_ok_iff.mpr output,
      bind_eq_ok_iff.mpr ⟨method, mapError_eq_ok_iff.mpr declared, rfl⟩⟩⟩⟩

/-- Among sound messages, a method fails for a message that is not there and for nothing else. -/
theorem resolveMethod_eq_error_iff (sound : SoundMessages entries) {error : DefinitionError} :
    resolveMethod (entries.map MessageEntry.message) entry = .error error ↔
      MethodFault (entries.map MessageEntry.name) entry error := by
  rw [resolveMethod_eq, ← names_messages, bind_eq_error_iff]
  constructor
  · rintro (refused | ⟨parts, taken, refused⟩)
    · obtain ⟨name, takes, unknown, rfl⟩ := inputParts_eq_error_iff.mp refused
      exact .input takes unknown
    · have known := exists_inputParts_iff.mp ⟨parts, taken⟩
      rcases bind_eq_error_iff.mp refused with refused | ⟨-, -, refused⟩
      · obtain ⟨name, gives, unknown, rfl⟩ := checkOutput_eq_error_iff.mp refused
        exact .output known gives unknown
      · -- what is left is the declaration, which cannot fail
        obtain ⟨method, declared⟩ := exists_declare_of_inputParts sound taken
        rw [mapError_eq_ok_iff.mpr declared] at refused
        cases refused
  · intro fault
    cases fault with
    | input takes unknown => exact .inl (inputParts_eq_error_iff.mpr ⟨_, takes, unknown, rfl⟩)
    | output known gives unknown =>
      obtain ⟨parts, taken⟩ := exists_inputParts_iff.mpr known
      have refused := checkOutput_eq_error_iff.mpr ⟨_, gives, unknown, rfl⟩
      exact .inr ⟨parts, taken, bind_eq_error_iff.mpr (.inl refused)⟩

end

/-! ## Files -/

section

variable {file : DefinitionFile}

theorem resolve_of_no_package (empty : file.package = "") :
    file.resolve = .error (.missingKey "package") := by
  rw [resolve, empty]
  rfl

theorem resolve_of_no_service (package : file.package ≠ "") (empty : file.service = "") :
    file.resolve = .error (.missingKey "service") := by
  have named : file.package.isEmpty = false := by simpa using package
  rw [resolve, named, empty]
  rfl

/-- A file with a package and a service is its messages and then its methods. -/
theorem resolve_of_named (package : file.package ≠ "") (service : file.service ≠ "") :
    file.resolve = (do
      let messages ← file.messages.foldlM addMessage []
      let methods ← file.methods.mapM (resolveMethod messages)
      return ⟨file.package, file.service, methods, messages⟩) := by
  have named : file.package.isEmpty = false := by simpa using package
  have served : file.service.isEmpty = false := by simpa using service
  rw [resolve, named, served]
  rfl

theorem exists_resolve_iff : (∃ definition, file.resolve = .ok definition) ↔ file.WellFormed := by
  constructor
  · rintro ⟨definition, resolved⟩
    have package : file.package ≠ "" := by
      intro empty
      rw [resolve_of_no_package empty] at resolved
      cases resolved
    have service : file.service ≠ "" := by
      intro empty
      rw [resolve_of_no_service package empty] at resolved
      cases resolved
    rw [resolve_of_named package service] at resolved
    obtain ⟨messages, added, resolved⟩ := bind_eq_ok_iff.mp resolved
    obtain ⟨methods, taken, -⟩ := bind_eq_ok_iff.mp resolved
    obtain ⟨sound, rfl⟩ := addMessages_eq_ok_iff.mp added
    refine ⟨package, service, sound, fun entry member => ?_⟩
    exact (exists_resolveMethod_iff sound).mp (exists_mapM_iff.mp ⟨methods, taken⟩ entry member)
  · intro wellFormed
    have resolvable := fun entry member =>
      (exists_resolveMethod_iff wellFormed.messages).mpr (wellFormed.methods entry member)
    obtain ⟨methods, taken⟩ := exists_mapM_iff.mpr resolvable
    have added := addMessages_eq_ok_iff.mpr ⟨wellFormed.messages, rfl⟩
    rw [resolve_of_named wellFormed.package wellFormed.service]
    exact ⟨_, bind_eq_ok_iff.mpr ⟨_, added, bind_eq_ok_iff.mpr ⟨methods, taken, rfl⟩⟩⟩

theorem resolve_eq_error_iff {error : DefinitionError} :
    file.resolve = .error error ↔ file.FirstFault error := by
  by_cases package : file.package = ""
  · rw [resolve_of_no_package package]
    constructor
    · intro refused
      obtain rfl := Except.error.inj refused
      exact .package package
    · intro fault
      cases fault with
      | package _ => rfl
      | service named _ => exact absurd package named
      | message named _ _ _ _ => exact absurd package named
      | method named _ _ _ _ _ => exact absurd package named
  by_cases service : file.service = ""
  · rw [resolve_of_no_service package service]
    constructor
    · intro refused
      obtain rfl := Except.error.inj refused
      exact .service package service
    · intro fault
      cases fault with
      | package empty => exact absurd empty package
      | service _ _ => rfl
      | message _ named _ _ _ => exact absurd service named
      | method _ named _ _ _ _ => exact absurd service named
  rw [resolve_of_named package service, bind_eq_error_iff]
  constructor
  · rintro (refused | ⟨messages, added, refused⟩)
    · obtain ⟨before, entry, after, split, sound, fault⟩ := addMessages_eq_error_iff.mp refused
      exact .message package service split sound fault
    · obtain ⟨messages, rfl⟩ := addMessages_eq_ok_iff.mp added
      rcases bind_eq_error_iff.mp refused with refused | ⟨methods, -, refused⟩
      · obtain ⟨before, entry, after, split, resolved, refused⟩ := mapM_eq_error_iff.mp refused
        refine .method package service messages split (fun other member => ?_)
          ((resolveMethod_eq_error_iff messages).mp refused)
        exact (exists_resolveMethod_iff messages).mp (resolved other member)
      · cases refused
  · intro fault
    cases fault with
    | package empty => exact absurd empty package
    | service _ empty => exact absurd empty service
    | message _ _ split sound fault =>
      exact .inl (addMessages_eq_error_iff.mpr ⟨_, _, _, split, sound, fault⟩)
    | method _ _ messages split sound fault =>
      refine .inr ⟨_, addMessages_eq_ok_iff.mpr ⟨messages, rfl⟩, bind_eq_error_iff.mpr (.inl ?_)⟩
      refine mapM_eq_error_iff.mpr ⟨_, _, _, split, fun other member => ?_,
        (resolveMethod_eq_error_iff messages).mpr fault⟩
      exact (exists_resolveMethod_iff messages).mpr (sound other member)

end

/-- **Definition files are settled.** A file resolves exactly when it is well-formed: its package and
its service are named, the names of its messages differ, so do the names of the fields of each, and
its methods take and give messages that it has. Otherwise it fails with its first fault. No method
fails in its declaration: an error of a declaration is always one of the messages. -/
theorem resolve_settled (file : DefinitionFile) :
    ((∃ definition, file.resolve = .ok definition) ↔ file.WellFormed) ∧
    (∀ error, file.resolve = .error error ↔ file.FirstFault error) ∧
    (∀ messages, file.messages.foldlM addMessage [] = .ok messages →
      ∀ entry error, resolveMethod messages entry ≠ .error (.declaration error)) := by
  refine ⟨exists_resolve_iff, fun error => resolve_eq_error_iff, ?_⟩
  intro messages added entry error refused
  obtain ⟨sound, rfl⟩ := addMessages_eq_ok_iff.mp added
  cases (resolveMethod_eq_error_iff sound).mp refused

end ToolGateway.DefinitionFile
