import Mathlib
import ToolGateway.Proofs.Decode.Toml
import ToolGateway.Proofs.Service.Faults

/-!
# The form of definition files

A definition file has four kinds of tables: the root, the messages in it, the fields in these, and the
methods. `TableKind.keys` lists the keys that a table of each kind may have, with the form of their
values, and `TableFault` what can be wrong with one: a key that is not listed, an entry without a name,
or a value of another form. `ofText_of_document` says that a document decodes exactly when none of its
tables is at fault, and to the file that `ofDocument` reads off it without looking for faults. So the
form of a document comes before everything that resolving it could complain about.

A decoder also takes an entry written as a list of its values in the order of their keys, in which no
key stands. `Tabular` documents have no such entry.
-/

namespace ToolGateway

/-! ## What a table gives under a key -/

/-- The table that a value is. -/
def Toml.table? : Toml → Option (Members Toml)
  | table members => some members
  | _ => none

/-- The text under a key, if one stands there. -/
def textAt (table : Members Toml) (key : String) : Option String :=
  match table.find? key with
  | some (.string text) => some text
  | _ => none

/-- The flag under a key, which is not set where it is not given. -/
def flagAt (table : Members Toml) (key : String) : Bool :=
  match table.find? key with
  | some (.boolean flag) => flag
  | _ => false

/-- The items of the list under a key. -/
def itemsAt (table : Members Toml) (key : String) : List Toml :=
  match table.find? key with
  | some (.array items) => items
  | _ => []

/-- The tables in the list under a key, in their order. -/
def tablesAt (table : Members Toml) (key : String) : List (Members Toml) :=
  (itemsAt table key).filterMap Toml.table?

def FieldEntry.ofTable (table : Members Toml) : FieldEntry where
  name := (textAt table "name").getD ""
  type := textAt table "type"
  repeated := flagAt table "repeated"
  isOptional := flagAt table "optional"

def MessageEntry.ofTable (table : Members Toml) : MessageEntry where
  name := (textAt table "name").getD ""
  resource := flagAt table "resource"
  fields := (tablesAt table "fields").map .ofTable

def MethodEntry.ofTable (table : Members Toml) : MethodEntry where
  name := (textAt table "name").getD ""
  input := textAt table "input"
  output := textAt table "output"

/-- The file that a document is, with what is not given left out. -/
def DefinitionFile.ofDocument (document : Members Toml) : DefinitionFile where
  package := (textAt document "package").getD ""
  service := (textAt document "service").getD ""
  messages := (tablesAt document "messages").map .ofTable
  methods := (tablesAt document "methods").map .ofTable

namespace DefinitionFile

/-! ## What a table has to be like -/

/-- What the value of a key has to be. -/
inductive ValueForm where
  | text
  | flag
  | tables
deriving DecidableEq

def ValueForm.Admits : ValueForm → Toml → Prop
  | text, value => ∃ text, value = .string text
  | flag, value => ∃ flag, value = .boolean flag
  | tables, value =>
    ∃ items, value = .array items ∧ ∀ item ∈ items, ∃ table, item = .table table

/-- The kinds of tables in a definition file. -/
inductive TableKind where
  | root
  | message
  | field
  | method
deriving DecidableEq

/-- The keys that a table may have, each with the form of its value. -/
def TableKind.keys : TableKind → List (String × ValueForm)
  | root => [("package", .text), ("service", .text), ("messages", .tables), ("methods", .tables)]
  | message => [("name", .text), ("resource", .flag), ("fields", .tables)]
  | field => [("name", .text), ("type", .text), ("repeated", .flag), ("optional", .flag)]
  | method => [("name", .text), ("input", .text), ("output", .text)]

/-- The tables of a document, each with its kind. -/
inductive Stands (document : Members Toml) : TableKind → Members Toml → Prop where
  | root : Stands document .root document
  | message {table : Members Toml} (held : table ∈ tablesAt document "messages") :
      Stands document .message table
  | field {message table : Members Toml} (above : Stands document .message message)
      (held : table ∈ tablesAt message "fields") : Stands document .field table
  | method {table : Members Toml} (held : table ∈ tablesAt document "methods") :
      Stands document .method table

/-- What can be wrong with a table of a kind. -/
inductive TableFault (kind : TableKind) (table : Members Toml) : Prop where
  | strayKey {key : String} {value : Toml} (given : (key, value) ∈ table)
      (stray : key ∉ kind.keys.map Prod.fst) : TableFault kind table
  | nameless (entry : kind ≠ .root) (absent : table.find? "name" = none) : TableFault kind table
  | wrongValue {key : String} {form : ValueForm} {value : Toml} (known : (key, form) ∈ kind.keys)
      (given : table.find? key = some value) (wrong : ¬ form.Admits value) : TableFault kind table

/-- The value under a key has the form it has to have, if it is given. -/
def Fits (table : Members Toml) (key : String) (form : ValueForm) : Prop :=
  ∀ value, table.find? key = some value → form.Admits value

variable {kind : TableKind} {table : Members Toml} {key : String}

theorem not_fault_iff : ¬ TableFault kind table ↔
    (∀ member ∈ table, member.1 ∈ kind.keys.map Prod.fst) ∧
    (kind ≠ .root → table.find? "name" ≠ none) ∧
    ∀ known ∈ kind.keys, Fits table known.1 known.2 := by
  constructor
  · intro sound
    refine ⟨?_, ?_, ?_⟩
    · intro member given
      by_contra stray
      exact sound (.strayKey given stray)
    · intro entry absent
      exact sound (.nameless entry absent)
    · intro known listed value given
      by_contra wrong
      exact sound (.wrongValue listed given wrong)
  · rintro ⟨known, named, fits⟩ fault
    cases fault with
    | strayKey given stray => exact stray (known _ given)
    | nameless entry absent => exact named entry absent
    | wrongValue listed given wrong => exact wrong (fits _ listed _ given)

/-! ## The fields of a table

What a decoder reads under a key of a table is what stands there, if it has the right form. -/

section

variable (table : Members Toml) (key : String)

theorem name_gives : ((Fields.named table).required key Decoder.string).Gives
    (table.find? key ≠ none ∧ Fits table key .text) ((textAt table key).getD "") := by
  intro text
  rw [Fields.required_eq_value_iff, Fields.value?_named]
  simp only [Toml.string_eq_ok_iff, Fits, ValueForm.Admits, textAt]
  cases table.find? key with
  | none => simp
  | some value => cases value <;> simp [eq_comm]

theorem text_gives : ((Fields.named table).withDefault key Decoder.string "").Gives
    (Fits table key .text) ((textAt table key).getD "") := by
  intro text
  rw [Fields.withDefault_eq_value_iff, Fields.value?_named]
  simp only [Toml.string_eq_ok_iff, Fits, ValueForm.Admits, textAt]
  cases table.find? key with
  | none => simp
  | some value => cases value <;> simp [eq_comm]

theorem text?_gives :
    ((Fields.named table).withDefault key (Decoder.optional Decoder.string) none).Gives
      (Fits table key .text) (textAt table key) := by
  intro text
  rw [Fields.withDefault_eq_value_iff, Fields.value?_named]
  simp only [Toml.optional_eq_ok_iff, Toml.string_eq_ok_iff, Fits, ValueForm.Admits, textAt]
  cases table.find? key with
  | none => simp
  | some value => cases value <;> simp [eq_comm]

theorem flag_gives : ((Fields.named table).withDefault key Decoder.boolean false).Gives
    (Fits table key .flag) (flagAt table key) := by
  intro flag
  rw [Fields.withDefault_eq_value_iff, Fields.value?_named]
  simp only [Toml.boolean_eq_ok_iff, Fits, ValueForm.Admits, flagAt]
  cases table.find? key with
  | none => simp
  | some value => cases value <;> simp [eq_comm]

end

/-! ## Lists of tables -/

section

variable {β : Type} {decode : Decoder Toml β} {Sound : Members Toml → Prop}
  {ofTable : Members Toml → β}

/-- Items of which only tables decode. -/
theorem list_tables_iff {items : List Toml}
    (tabled : ∀ item ∈ items, ∀ entry, decode item = .ok entry → ∃ inner, item = .table inner)
    (decodes : ∀ inner, .table inner ∈ items → ∀ entry,
      decode (.table inner) = .ok entry ↔ Sound inner ∧ entry = ofTable inner) (entries : List β) :
    List.Forall₂ (fun item entry => decode item = .ok entry) items entries ↔
      ((∀ item ∈ items, ∃ inner, item = .table inner) ∧
        ∀ inner ∈ items.filterMap Toml.table?, Sound inner) ∧
      entries = (items.filterMap Toml.table?).map ofTable := by
  induction items generalizing entries with
  | nil => simp
  | cons item rest ih =>
    -- the entry of the first item decides nothing about the others
    have tail := ih (fun item member => tabled item (List.mem_cons_of_mem _ member))
      (fun inner member => decodes inner (List.mem_cons_of_mem _ member))
    simp only [List.forall₂_cons_left_iff, tail]
    constructor
    · rintro ⟨entry, _, read, ⟨⟨tables, sound⟩, rfl⟩, rfl⟩
      obtain ⟨inner, rfl⟩ := tabled item List.mem_cons_self entry read
      obtain ⟨head, rfl⟩ := (decodes inner List.mem_cons_self entry).mp read
      exact ⟨⟨List.forall_mem_cons.mpr ⟨⟨inner, rfl⟩, tables⟩,
        List.forall_mem_cons.mpr ⟨head, sound⟩⟩, rfl⟩
    · rintro ⟨⟨tables, sound⟩, rfl⟩
      obtain ⟨⟨inner, rfl⟩, others⟩ := List.forall_mem_cons.mp tables
      obtain ⟨head, sound⟩ := List.forall_mem_cons.mp sound
      exact ⟨ofTable inner, _, (decodes inner List.mem_cons_self _).mpr ⟨head, rfl⟩,
        ⟨⟨others, sound⟩, rfl⟩, rfl⟩

theorem tables_gives (decode : Decoder Toml β)
    (tabled : ∀ {item entry}, decode item = .ok entry → (∀ items, item ≠ .array items) →
      ∃ inner, item = .table inner)
    (unlisted : ∀ item ∈ itemsAt table key, ∀ items, item ≠ .array items)
    (decodes : ∀ inner ∈ tablesAt table key, ∀ entry,
      decode (.table inner) = .ok entry ↔ Sound inner ∧ entry = ofTable inner) :
    ((Fields.named table).withDefault key (Decoder.list decode) []).Gives
      (Fits table key .tables ∧ ∀ inner ∈ tablesAt table key, Sound inner)
      ((tablesAt table key).map ofTable) := by
  have each := list_tables_iff (fun item member _ read => tabled read (unlisted item member))
    (fun inner member => decodes inner (List.mem_filterMap.mpr ⟨_, member, rfl⟩))
  intro entries
  rw [Fields.withDefault_eq_value_iff, Fields.value?_named]
  simp only [Toml.list_eq_ok_iff, Fits, ValueForm.Admits]
  simp only [tablesAt, itemsAt] at each ⊢
  generalize table.find? key = found at each ⊢
  cases found with
  | none => simp
  | some value =>
    cases value with
    | array items => simpa using each entries
    | _ => simp

end

/-! ## Entries -/

theorem decode_field_iff {entry : FieldEntry} : FieldEntry.decode (.table table) = .ok entry ↔
    ¬ TableFault .field table ∧ entry = .ofTable table := by
  have fields := ((((name_gives table "name").map FieldEntry.mk).seq (text?_gives table "type")).seq
    (flag_gives table "repeated")).seq (flag_gives table "optional")
  rw [FieldEntry.decode, Toml.record_of_gives fields, not_fault_iff]
  -- the record reads the keys in the order in which they are listed
  simp [TableKind.keys, and_assoc, FieldEntry.ofTable]

theorem decode_method_iff {entry : MethodEntry} : MethodEntry.decode (.table table) = .ok entry ↔
    ¬ TableFault .method table ∧ entry = .ofTable table := by
  have fields := (((name_gives table "name").map MethodEntry.mk).seq (text?_gives table "input")).seq
    (text?_gives table "output")
  rw [MethodEntry.decode, Toml.record_of_gives fields, not_fault_iff]
  simp [TableKind.keys, and_assoc, MethodEntry.ofTable]

theorem decode_message_iff {entry : MessageEntry}
    (unlisted : ∀ item ∈ itemsAt table "fields", ∀ items, item ≠ .array items) :
    MessageEntry.decode (.table table) = .ok entry ↔
      (¬ TableFault .message table ∧
        ∀ inner ∈ tablesAt table "fields", ¬ TableFault .field inner) ∧
      entry = .ofTable table := by
  have inner := tables_gives FieldEntry.decode
    (fun decoded => Toml.exists_table_of_record (by decide) decoded) unlisted
    (fun _ _ _ => decode_field_iff)
  have fields := (((name_gives table "name").map MessageEntry.mk).seq
    (flag_gives table "resource")).seq inner
  rw [MessageEntry.decode, Toml.record_of_gives fields, not_fault_iff]
  simp [TableKind.keys, and_assoc, MessageEntry.ofTable]

/-! ## Documents -/

section

variable {document : Members Toml}

/-- No entry of a document is written as a list of its values. -/
structure Tabular (document : Members Toml) : Prop where
  messages : ∀ item ∈ itemsAt document "messages", ∀ items, item ≠ .array items
  fields : ∀ message ∈ tablesAt document "messages",
    ∀ item ∈ itemsAt message "fields", ∀ items, item ≠ .array items
  methods : ∀ item ∈ itemsAt document "methods", ∀ items, item ≠ .array items

/-- Something is wrong with a table of a document. -/
def Faulty (document : Members Toml) : Prop :=
  ∃ kind table, Stands document kind table ∧ TableFault kind table

theorem not_faulty_iff : ¬ Faulty document ↔
    (¬ TableFault .root document ∧
      ∀ message ∈ tablesAt document "messages", ¬ TableFault .message message ∧
        ∀ field ∈ tablesAt message "fields", ¬ TableFault .field field) ∧
    ∀ method ∈ tablesAt document "methods", ¬ TableFault .method method := by
  constructor
  · intro sound
    refine ⟨⟨fun fault => sound ⟨_, _, .root, fault⟩, fun message held => ⟨?_, ?_⟩⟩, ?_⟩
    · exact fun fault => sound ⟨_, _, .message held, fault⟩
    · exact fun field inner fault => sound ⟨_, _, .field (.message held) inner, fault⟩
    · exact fun method held fault => sound ⟨_, _, .method held, fault⟩
  · rintro ⟨⟨root, messages⟩, methods⟩ ⟨kind, table, stands, fault⟩
    cases stands with
    | root => exact root fault
    | message held => exact (messages _ held).1 fault
    | field above inner =>
      cases above with
      | message held => exact (messages _ held).2 _ inner fault
    | method held => exact methods _ held fault

theorem decode_document_iff (tabular : Tabular document) {file : DefinitionFile} :
    DefinitionFile.decode (.table document) = .ok file ↔
      ¬ Faulty document ∧ file = ofDocument document := by
  have messages := tables_gives MessageEntry.decode
    (fun decoded => Toml.exists_table_of_record (by decide) decoded) tabular.messages
    (fun message held _ => decode_message_iff (tabular.fields message held))
  have methods := tables_gives MethodEntry.decode
    (fun decoded => Toml.exists_table_of_record (by decide) decoded) tabular.methods
    (fun _ _ _ => decode_method_iff)
  have fields := ((((text_gives document "package").map DefinitionFile.mk).seq
    (text_gives document "service")).seq messages).seq methods
  rw [DefinitionFile.decode, Toml.record_of_gives fields, not_faulty_iff, not_fault_iff]
  simp only [TableKind.keys, List.forall_mem_cons, List.map_cons, List.map_nil]
  -- each list of entries is read with its key, while the faults of the root stand before all entries
  refine and_congr_left' ⟨?_, ?_⟩
  · rintro ⟨known, ⟨⟨package, service⟩, messages, inner⟩, methods, inner'⟩
    exact ⟨⟨⟨known, by simp, package, service, messages, methods, by simp⟩, inner⟩, inner'⟩
  · rintro ⟨⟨⟨known, -, package, service, messages, methods, -⟩, inner⟩, inner'⟩
    exact ⟨known, ⟨⟨package, service⟩, messages, inner⟩, methods, inner'⟩

/-- Resolving a file says nothing about its form. -/
theorem resolve_ne_misshapen (file : DefinitionFile) (error : DecodeError) :
    file.resolve ≠ .error (.misshapen error) := by
  intro refused
  cases resolve_eq_error_iff.mp refused with
  | message _ _ _ _ fault => cases fault
  | method _ _ _ _ _ fault => cases fault

end

end DefinitionFile

namespace ServiceDefinition

open DefinitionFile

/-- **The form of a definition file comes first.** The text of a document without listed entries is
refused for its form exactly when one of its tables, wherever it stands, is at fault, and otherwise it
comes to what the file that the document is resolves to. -/
theorem ofText_of_document {text : String} {document : Members Toml}
    (given : Toml.read? text = some document) (tabular : Tabular document) :
    ((∃ error, ofText text = .error (.misshapen error)) ↔ Faulty document) ∧
    (¬ Faulty document → ofText text = (DefinitionFile.ofDocument document).resolve) := by
  unfold ofText
  simp only [given]
  cases decoded : DefinitionFile.decode (.table document) with
  | error error =>
    have faulty : Faulty document := by
      by_contra sound
      rw [(decode_document_iff tabular).mpr ⟨sound, rfl⟩] at decoded
      cases decoded
    exact ⟨iff_of_true ⟨error, rfl⟩ faulty, fun sound => absurd faulty sound⟩
  | ok file =>
    obtain ⟨sound, rfl⟩ := (decode_document_iff tabular).mp decoded
    refine ⟨iff_of_false ?_ sound, fun _ => rfl⟩
    rintro ⟨error, refused⟩
    exact resolve_ne_misshapen _ _ refused

/-- A file with a misspelt `optional`, and without a package or a service. -/
def misspeltText : String :=
  "[[messages]]\nname=\"Page\"\nfields=[\x7bname=\"mark\",optionl=true\x7d]\n"

def misspeltDocument : Members Toml :=
  [("messages", .array [.table [("name", .string "Page"),
    ("fields", .array [.table [("name", .string "mark"), ("optionl", .boolean true)]])]])]

theorem ofText_misspelt : Toml.read? misspeltText = some misspeltDocument ∧
    Tabular misspeltDocument ∧ Faulty misspeltDocument ∧
    ∃ error, ofText misspeltText = .error (.misshapen error) := by
  have given : Toml.read? misspeltText = some misspeltDocument := by cbv
  have tabular : Tabular misspeltDocument := by
    constructor <;> simp [misspeltDocument, itemsAt, tablesAt, Toml.table?, Members.find?]
  have message : Stands misspeltDocument .message [("name", .string "Page"),
      ("fields", .array [.table [("name", .string "mark"), ("optionl", .boolean true)]])] :=
    .message (List.mem_singleton.mpr rfl)
  have faulty : Faulty misspeltDocument :=
    ⟨.field, _, .field message (List.mem_singleton.mpr rfl),
      .strayKey (List.mem_cons_of_mem _ List.mem_cons_self) (by decide)⟩
  exact ⟨given, tabular, faulty, (ofText_of_document given tabular).1.mpr faulty⟩

end ServiceDefinition

end ToolGateway
