import ToolGateway.Members
import ToolGateway.Service.DefinitionFile

/-!
# Messages by their places

The messages of a definition file in order, with the place of each of them kept under its name. The
index is built in one pass over the entries, and the methods are resolved with the messages that stand
at the places it keeps. This comes to what `DefinitionFile.resolve` comes to, which searches the
messages.
-/

namespace ToolGateway

/-- Messages in order, and where each of them stands. -/
structure MessageIndex where
  messages : List Message
  places : Members Nat
deriving Inhabited

namespace MessageIndex

def empty : MessageIndex := ⟨[], []⟩

def contains (index : MessageIndex) (name : String) : Bool := (index.places.find? name).isSome

/-- The message at the place kept under a name. -/
def find? (index : MessageIndex) (name : String) : Option Message :=
  (index.places.find? name).bind fun place => index.messages[place]?

/-- Adds the message of an entry behind the others. Its name has to be new and its field names have to
differ. -/
def add (index : MessageIndex) (entry : MessageEntry) : Except DefinitionError MessageIndex :=
  if index.contains entry.name then .error (.duplicateMessage entry.name)
  else
    match firstRepeated? (entry.fields.map FieldEntry.name) with
    | some field => .error (.declaration (.duplicateField entry.name field))
    | none =>
      .ok ⟨index.messages ++ [entry.message], index.places.put entry.name index.messages.length⟩

/-- The index of the messages of a file, entry by entry. -/
def ofEntries (entries : List MessageEntry) : Except DefinitionError MessageIndex :=
  entries.foldlM add empty

end MessageIndex

/-- The method of an entry, given how messages are found: its input is looked up before its output. -/
def MethodEntry.resolve (find? : String → Option Message) (entry : MethodEntry) :
    Except DefinitionError Method := do
  let (fields, required) ←
    match entry.input with
    | some input => do
      let message ← lookup input
      pure (message.fields, message.requiredNames)
    | none => pure ([], [])
  match entry.output with
  | some output =>
    let _ ← lookup output
  | none => pure ()
  let method ← (Method.declare entry.name fields required).mapError .declaration
  return { method with inputType := entry.input, outputType := entry.output }
where
  lookup (name : String) : Except DefinitionError Message :=
    match find? name with
    | some message => .ok message
    | none => .error (.unknownMessage entry.name name)

/-- The service definition of a file, or the first error in it, with the messages found by their
places. -/
def DefinitionFile.resolveIndexed (file : DefinitionFile) :
    Except DefinitionError ServiceDefinition := do
  if file.package.isEmpty then throw (.missingKey "package")
  if file.service.isEmpty then throw (.missingKey "service")
  let index ← MessageIndex.ofEntries file.messages
  let methods ← file.methods.mapM (MethodEntry.resolve index.find?)
  return ⟨file.package, file.service, methods, index.messages⟩

end ToolGateway
