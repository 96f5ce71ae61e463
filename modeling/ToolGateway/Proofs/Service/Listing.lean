import ToolGateway.Proofs.Except
import ToolGateway.Proofs.Schema.Agreement
import ToolGateway.Proofs.Service.Resolution
import ToolGateway.Server.Basic

/-!
# From a definition file to the listed tools

What `tools/list` answers, read off the definition file alone: one tool for each method entry, with
one property for each field of the message it takes. On the way the fields pass through messages,
methods and tools, the names that need not be given and those that have to are kept as sets, and the
properties are put one after the other. `listed_tools_of_file` says that nothing is lost and that the
order of the file is kept throughout.
-/

namespace ToolGateway

/-! ## What a file announces -/

namespace FieldEntry

/-- The type that a listing shows for a field. -/
def listedType (entry : FieldEntry) : String :=
  if entry.repeated then "array"
  else
    match entry.type with
    | none => "string"
    | some type => (FieldKind.ofTypeName type).name

/-- The property that a listing shows for a field. -/
def property (entry : FieldEntry) : String × Json :=
  (entry.name, .object [("type", .string entry.listedType),
    ("description", .string ("Field " ++ entry.name))])

theorem property_eq (entry : FieldEntry) :
    (entry.field.name, entry.field.schema) = entry.property := by
  have kind : entry.kind.name = entry.listedType := by
    unfold FieldEntry.kind listedType
    cases entry.repeated <;> cases entry.type <;> rfl
  simp [FieldEntry.field, Field.ofKind, Field.schema, FieldKind.toJson, FieldEntry.property, kind]

end FieldEntry

/-- The tool that a listing shows for a method that takes these fields. -/
def MethodEntry.listedTool (method : MethodEntry) (service : String) (fields : List FieldEntry) :
    Json :=
  .object [("name", .string method.name),
    ("description", .string (method.name ++ " method from " ++ service ++ " service")),
    ("inputSchema", .object [("type", .string "object"),
      ("properties", .object (fields.map FieldEntry.property)),
      ("required", .strings ((fields.filter (!·.isOptional)).map FieldEntry.name))])]

/-- The fields that a method of a file takes: none, or those of the message that its entry names. -/
inductive DefinitionFile.Takes (file : DefinitionFile) (method : MethodEntry) :
    List FieldEntry → Prop where
  | nothing (bare : method.input = none) : file.Takes method []
  | message {message : MessageEntry} (member : message ∈ file.messages)
      (named : method.input = some message.name) : file.Takes method message.fields

/-! ## Messages -/

namespace MessageEntry

theorem names_fields (entry : MessageEntry) :
    entry.message.fields.map Field.name = entry.fields.map FieldEntry.name := by
  simp [message, FieldEntry.field, Field.ofKind]

/-- Among fields with different names, a name is optional exactly as its field is. -/
theorem contains_optionalFields {entry : MessageEntry}
    (differ : (entry.fields.map FieldEntry.name).Nodup) {field : FieldEntry}
    (member : field ∈ entry.fields) :
    entry.message.optionalFields.contains field.name = field.isOptional := by
  rw [Bool.eq_iff_iff]
  simp only [message, NameSet.contains, List.contains_iff_mem, NameSet.mem_ofList, List.mem_map,
    List.mem_filter]
  constructor
  · rintro ⟨other, ⟨held, marked⟩, same⟩
    rwa [List.inj_on_of_nodup_map differ held member same] at marked
  · intro marked
    exact ⟨field, ⟨member, marked⟩, rfl⟩

/-- The names to be given are those of the fields that are not marked optional, in their order. -/
theorem requiredNames_message {entry : MessageEntry}
    (differ : (entry.fields.map FieldEntry.name).Nodup) :
    entry.message.requiredNames =
      (entry.fields.filter (!·.isOptional)).map FieldEntry.name := by
  rw [Message.requiredNames, names_fields, List.filter_map]
  congr 1
  refine List.filter_congr ?_
  intro field member
  simp [contains_optionalFields differ member]

end MessageEntry

/-! ## Methods -/

/-- Required names that were picked from the fields stand in the order of the fields again, although
the set they are kept in is sorted. -/
theorem Method.requiredInOrder_of_filter {method : Method} {picks : String → Bool}
    (required : method.required = .ofList ((method.fields.map Field.name).filter picks)) :
    method.requiredInOrder = (method.fields.map Field.name).filter picks := by
  refine List.filter_congr ?_
  intro name member
  rw [Bool.eq_iff_iff, Method.isRequired, required, NameSet.contains, List.contains_iff_mem,
    NameSet.mem_ofList, List.mem_filter]
  exact and_iff_right member

namespace DefinitionFile

theorem messageFor_eq_ok {messages : List Message} {method name : String} {message : Message}
    (found : messageFor messages method name = .ok message) :
    message ∈ messages ∧ message.name = name := by
  unfold messageFor at found
  split at found
  next other held =>
    obtain rfl := Except.ok.inj found
    exact ⟨List.mem_of_find?_eq_some held, name_of_find? Message.name held⟩
  · cases found

/-- The fields and the required names that an entry takes over from its input. -/
def inputParts (messages : List Message) (entry : MethodEntry) :
    Except DefinitionError (List Field × List String) :=
  match entry.input with
  | some input =>
    (messageFor messages entry.name input).map fun message => (message.fields, message.requiredNames)
  | none => .ok ([], [])

/-- Looks the output of an entry up. -/
def checkOutput (messages : List Message) (entry : MethodEntry) : Except DefinitionError Unit :=
  match entry.output with
  | some output => (messageFor messages entry.name output).map fun _ => ()
  | none => .ok ()

/-- An entry is resolved in three steps: its input, its output, its declaration. -/
theorem resolveMethod_eq (messages : List Message) (entry : MethodEntry) :
    resolveMethod messages entry = (do
      let parts ← inputParts messages entry
      let _ ← checkOutput messages entry
      let method ← (Method.declare entry.name parts.1 parts.2).mapError .declaration
      return { method with inputType := entry.input, outputType := entry.output }) := by
  unfold resolveMethod inputParts checkOutput
  cases entry.input with
  | none =>
    cases entry.output with
    | none => rfl
    | some output =>
      dsimp only
      cases messageFor messages entry.name output <;> rfl
  | some input =>
    dsimp only
    cases messageFor messages entry.name input with
    | error error => rfl
    | ok message =>
      cases entry.output with
      | none => rfl
      | some output =>
        dsimp only [Except.map]
        cases messageFor messages entry.name output <;> rfl

/-- What an entry that resolves becomes: a method without fields, or one with the fields and the
required names of a message. -/
theorem parts_of_resolveMethod {messages : List Message} {entry : MethodEntry} {method : Method}
    (resolved : resolveMethod messages entry = .ok method) :
    ∃ fields required, (fields.map Field.name).Nodup ∧
      method = ⟨entry.name, "", fields, .ofList required, entry.input, entry.output⟩ ∧
      ((entry.input = none ∧ fields = [] ∧ required = []) ∨
        ∃ message ∈ messages, entry.input = some message.name ∧ fields = message.fields ∧
          required = message.requiredNames) := by
  rw [resolveMethod_eq] at resolved
  obtain ⟨⟨fields, required⟩, taken, resolved⟩ := bind_eq_ok_iff.mp resolved
  obtain ⟨-, -, resolved⟩ := bind_eq_ok_iff.mp resolved
  obtain ⟨bare, made, same⟩ := bind_eq_ok_iff.mp resolved
  obtain ⟨differ, -, rfl⟩ := Method.declare_eq_ok_iff.mp (mapError_eq_ok_iff.mp made)
  refine ⟨fields, required, differ, (Except.ok.inj same).symm, ?_⟩
  unfold inputParts at taken
  split at taken
  next name input =>
    obtain ⟨message, found, same⟩ := map_eq_ok_iff.mp taken
    obtain ⟨member, rfl⟩ := messageFor_eq_ok found
    obtain ⟨rfl, rfl⟩ := Prod.mk.inj same
    exact .inr ⟨message, member, input, rfl, rfl⟩
  next input =>
    obtain ⟨rfl, rfl⟩ := Prod.mk.inj (Except.ok.inj taken)
    exact .inl ⟨input, rfl, rfl⟩

/-- The tool of an entry that resolves is the one that the file announces. -/
theorem exists_takes_of_resolveMethod {file : DefinitionFile}
    (differ : ∀ message ∈ file.messages, (message.fields.map FieldEntry.name).Nodup)
    {entry : MethodEntry} {method : Method}
    (resolved : resolveMethod (file.messages.map MessageEntry.message) entry = .ok method) :
    ∃ fields, file.Takes entry fields ∧
      (Tool.ofMethod file.service method).definition.toJson =
        entry.listedTool file.service fields := by
  obtain ⟨fields, required, alone, rfl, taken⟩ := parts_of_resolveMethod resolved
  have listed : ∀ entries : List FieldEntry, fields = entries.map FieldEntry.field →
      (Method.mk entry.name "" fields (.ofList required) entry.input entry.output).requiredInOrder =
        (entries.filter (!·.isOptional)).map FieldEntry.name →
      (Tool.ofMethod file.service
        ⟨entry.name, "", fields, .ofList required, entry.input, entry.output⟩).definition.toJson =
          entry.listedTool file.service entries := by
    rintro entries rfl ordered
    simp only [Tool.definition, Tool.ofMethod, ToolDefinition.toJson, Method.inputSchema, ordered,
      properties_of_nodup alone, List.map_map, MethodEntry.listedTool]
    simp only [Function.comp_def, FieldEntry.property_eq]
  rcases taken with ⟨input, rfl, rfl⟩ | ⟨message, member, input, rfl, rfl⟩
  · exact ⟨[], .nothing input, listed [] rfl rfl⟩
  · obtain ⟨source, held, rfl⟩ := List.mem_map.mp member
    refine ⟨source.fields, .message held input, listed _ rfl ?_⟩
    rw [← MessageEntry.requiredNames_message (differ source held)]
    exact Method.requiredInOrder_of_filter rfl

end DefinitionFile

/-! ## The listing -/

theorem ServiceDefinition.ofText_eq_ok_iff {text : String} {definition : ServiceDefinition} :
    ofText text = .ok definition ↔ ∃ document file, Toml.read? text = some document ∧
      DefinitionFile.decode (.table document) = .ok file ∧ file.resolve = .ok definition := by
  unfold ofText
  cases Toml.read? text with
  | none => simp
  | some document => cases decoded : DefinitionFile.decode (.table document) <;> simp [decoded]

/-- The file that a text holds, found by reading it. -/
theorem DefinitionFile.exists_document {text : String} {file : DefinitionFile}
    (found : (Toml.read? text).bind (fun document => (decode (.table document)).toOption) =
      some file) :
    ∃ document, Toml.read? text = some document ∧ decode (.table document) = .ok file := by
  obtain ⟨document, read, decoded⟩ := Option.bind_eq_some_iff.mp found
  exact ⟨document, read, toOption_eq_some_iff.mp decoded⟩

/-- The tools of a gateway are those of the methods, whatever resources are selected. -/
theorem Gateway.exists_ofDefinition {definition : ServiceDefinition}
    (methods : (definition.methods.map Method.name).Nodup)
    (messages : (definition.messages.map Message.name).Nodup) (selection : ResourceSelection) :
    ∃ resources, ofDefinition definition selection = .ok ⟨definition.package,
      ⟨definition.name, definition.methods.map (Tool.ofMethod definition.name)⟩, resources⟩ := by
  have tools := ToolCatalog.ofDefinition_eq_ok_iff.mpr ⟨methods, rfl⟩
  have resources := ResourceCatalog.ofDefinition_of_nodup messages selection
  unfold ofDefinition
  rw [tools, resources]
  exact ⟨_, rfl⟩

theorem Server.handle_listTools {σ : Type} (server : Server σ) {request : Request} {id : Json}
    (asked : request.method = "tools/list") (numbered : request.id = some id)
    (state : ServerState σ) :
    server.handle request state = (some (.success (some id) (.object
      [("tools", .array (server.gateway.tools.definitions.map ToolDefinition.toJson))])), state) := by
  have verb : Verb.ofName? "tools/list" = some .listTools := rfl
  simp only [handle, answer, asked, verb, Request.isNotification, numbered, Option.isNone_some,
    Bool.false_eq_true, if_false]

/-- **From a definition file to `tools/list`.** A text that loads is a definition file whose messages
have different names, as have the fields of each of them. If its methods have different names too,
every gateway of the service can be built, and a server for one answers `tools/list` with one tool
for each method of the file, in the order of the file. A tool has the name of its method, its fields
are those of the message the method takes, in the order of that message, and the required ones are
those that are not marked optional, in the same order. -/
theorem listed_tools_of_file {text : String} {definition : ServiceDefinition}
    (loaded : ServiceDefinition.ofText text = .ok definition)
    (differ : (definition.methods.map Method.name).Nodup) :
    ∃ document file, Toml.read? text = some document ∧
      DefinitionFile.decode (.table document) = .ok file ∧
      (file.messages.map MessageEntry.name).Nodup ∧
      (∀ message ∈ file.messages, (message.fields.map FieldEntry.name).Nodup) ∧
      ∃ tools, List.Forall₂ (fun method tool => ∃ fields, file.Takes method fields ∧
          tool = method.listedTool file.service fields) file.methods tools ∧
        ∀ selection, ∃ gateway, Gateway.ofDefinition definition selection = .ok gateway ∧
          ∀ {σ : Type} (server : Server σ) (request : Request) (id : Json) (state : ServerState σ),
            server.gateway = gateway → request.method = "tools/list" → request.id = some id →
              server.handle request state =
                (some (.success (some id) (.object [("tools", .array tools)])), state) := by
  obtain ⟨document, file, found, decoded, resolved⟩ := ServiceDefinition.ofText_eq_ok_iff.mp loaded
  obtain ⟨messages, fields, methods, taken, rfl⟩ := DefinitionFile.parts_of_resolve resolved
  refine ⟨document, file, found, decoded, messages, fields,
    methods.map fun method => (Tool.ofMethod file.service method).definition.toJson, ?_, ?_⟩
  · rw [List.forall₂_map_right_iff]
    refine (mapM_eq_ok_iff.mp taken).imp ?_
    intro entry method taken
    exact DefinitionFile.exists_takes_of_resolveMethod fields taken
  · intro selection
    obtain ⟨resources, built⟩ := Gateway.exists_ofDefinition differ
      (DefinitionFile.messages_of_resolve resolved).2.2.2 selection
    refine ⟨_, built, ?_⟩
    intro σ server request id state offers asked numbered
    rw [server.handle_listTools asked numbered, offers, ToolCatalog.definitions, List.map_map,
      List.map_map]
    rfl

/-- A definition of a method that takes a message with two fields. -/
def pageText : String :=
  "package=\"p\"\nservice=\"S\"\n[[messages]]\nname=\"Page\"\n" ++
    "fields=[\x7bname=\"size\"\x7d,\x7bname=\"mark\",optional=true\x7d]\n" ++
    "[[methods]]\nname=\"Turn\"\ninput=\"Page\"\n"

def pageFields : List FieldEntry := [⟨"size", none, false, false⟩, ⟨"mark", none, false, true⟩]

/-- The file with that text. -/
def pageFile : DefinitionFile :=
  ⟨"p", "S", [⟨"Page", false, pageFields⟩], [⟨"Turn", some "Page", none⟩]⟩

theorem decode_pageText : ∃ document, Toml.read? pageText = some document ∧
    DefinitionFile.decode (.table document) = .ok pageFile :=
  DefinitionFile.exists_document (by decide +kernel)

/-- The listing shows the fields as they stand in the text, not by their names. -/
theorem listed_tools_of_file_page : ∃ definition gateway,
    ServiceDefinition.ofText pageText = .ok definition ∧
    Gateway.ofDefinition definition .entities = .ok gateway ∧
    Server.handle ⟨none, gateway, silentBackend⟩ ⟨"2.0", some .null, "tools/list", none⟩
        ⟨none, ()⟩ =
      (some (.success (some .null) (.object [("tools", .array [
        .object [("name", .string "Turn"), ("description", .string "Turn method from S service"),
          ("inputSchema", .object [("type", .string "object"),
            ("properties", .object [
              ("size", .object [("type", .string "string"), ("description", .string "Field size")]),
              ("mark", .object [("type", .string "string"),
                ("description", .string "Field mark")])]),
            ("required", .array [.string "size"])])]])])), ⟨none, ()⟩) := by
  obtain ⟨document, read, decoded⟩ := decode_pageText
  obtain ⟨definition, resolved, names⟩ : ∃ definition, pageFile.resolve = .ok definition ∧
      definition.methods.map Method.name = ["Turn"] := ⟨_, rfl, rfl⟩
  have loaded := ServiceDefinition.ofText_eq_ok_iff.mpr ⟨document, pageFile, read, decoded, resolved⟩
  obtain ⟨document', file, read', decoded', -, -, tools, listed, offers⟩ :=
    listed_tools_of_file loaded (by rw [names]; decide)
  obtain rfl : document' = document := Option.some.inj (read'.symm.trans read)
  obtain rfl : file = pageFile := Except.ok.inj (decoded'.symm.trans decoded)
  obtain ⟨gateway, built, answer⟩ := offers .entities
  refine ⟨definition, gateway, loaded, built, ?_⟩
  rw [answer _ _ .null _ rfl rfl rfl]
  obtain _ | ⟨⟨fields, takes, rfl⟩, _ | _⟩ := listed
  cases takes with
  | nothing bare => cases bare
  | message member named =>
    obtain rfl := List.mem_singleton.mp member
    rfl

end ToolGateway
