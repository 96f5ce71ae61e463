import ToolGateway.Files.Fault
import ToolGateway.Service.Descriptor

/-!
# Service definitions

The static description of one service: its package, its methods and its messages, each in the order
of their declaration. Nothing is checked here; `DefinitionFile.resolve` builds checked ones.
-/

namespace ToolGateway

/-- The description of a service. -/
structure ServiceDefinition where
  package : String
  name : String
  methods : List Method
  messages : List Message
deriving DecidableEq, Inhabited

namespace ServiceDefinition

/-- The first message of a name. -/
def message? (definition : ServiceDefinition) (name : String) : Option Message :=
  definition.messages.find? fun message => message.name == name

end ServiceDefinition

/-- Why a service definition cannot be had. -/
inductive DefinitionError where
  | unreadable (path : String) (fault : FileFault)
  /-- The text is no TOML document. -/
  | malformed
  /-- The document does not have the form of a definition. -/
  | misshapen (error : DecodeError)
  | missingKey (key : String)
  | duplicateMessage (name : String)
  | unknownMessage (method message : String)
  | declaration (error : DeclarationError)
deriving DecidableEq, Inhabited

def DefinitionError.message : DefinitionError → String
  | unreadable path fault => "Failed to read service definition " ++ path ++ ": " ++ fault.message
  | malformed => "Failed to parse service definition: the text is not a TOML document"
  | misshapen error => "Failed to parse service definition: " ++ error.message
  | missingKey key => "Service definition is missing `" ++ key ++ "`"
  | duplicateMessage name => "Message " ++ name ++ " is declared more than once"
  | unknownMessage method message =>
    "Method " ++ method ++ " references unknown message " ++ message
  | declaration (.duplicateField owner field) =>
    "Field " ++ field ++ " is declared more than once in " ++ owner
  | declaration (.unknownRequiredField method field) =>
    "Method " ++ method ++ " marks " ++ field ++ " as required but declares no such field"

end ToolGateway
