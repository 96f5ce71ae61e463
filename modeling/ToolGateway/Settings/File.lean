import ToolGateway.Files.Fault

/-!
# Settings files

A settings file is a TOML document and says so in its name. Where no file has the name that is
given, the ending of the name may have been left out.

TOML is the format that the settings are documented in, and the only one that is modelled. A loader
that goes by the endings of names may know further formats and read, say, JSON from a file that ends
in `.json`; here such a file is refused, since its name does not say that it holds TOML.
-/

namespace ToolGateway

/-- Why settings cannot be loaded. -/
inductive SettingsError where
  | unreadable (fault : FileFault)
  /-- The file does not hold a table of TOML. -/
  | malformed
  /-- The name of the file does not say that it holds TOML. -/
  | unnamedFormat
  /-- A value cannot stand for what its setting needs. -/
  | unsuitable
deriving DecidableEq, Inhabited

def SettingsError.message : SettingsError → String
  | unreadable fault => "Failed to load settings: " ++ fault.message
  | malformed => "Failed to load settings: the file does not hold a table of TOML"
  | unnamedFormat => "Failed to load settings: the name of the file does not end in .toml"
  | unsuitable => "Failed to load settings: a value does not suit its setting"

namespace SettingsFile

def ending : List Char := ".toml".toList

/-- Whether a path leads to a name with the ending, which is not the ending alone. -/
def hasEnding (path : String) : Bool :=
  let name := (path.toList.reverse.takeWhile (· ≠ '/')).reverse
  ending.isSuffixOf name && name ≠ ending

/-- The path of a settings file that is named without its ending. -/
def withEnding (path : String) : String := path ++ String.ofList ending

/-- The content of the settings file at a path, in a host where `content` tells what reading a file
comes to. -/
def find (content : String → Except FileFault (List UInt8)) (path : String) :
    Except SettingsError (List UInt8) :=
  match content path with
  | .ok bytes => if hasEnding path then .ok bytes else .error .unnamedFormat
  | .error _ => (content (withEnding path)).mapError .unreadable

end SettingsFile

end ToolGateway
