import ToolGateway.Settings.Basic

/-!
# Command-line options

The options of the server program. Each takes one value, given as the next argument or after an
equals sign, and may be given once. There are no other arguments.
-/

namespace ToolGateway

/-- The options that were given. -/
structure Options where
  definition : Option String
  backend : Option BackendKind
  grpcEndpoint : Option String
  config : Option String
  logLevel : Option String
  name : Option String
deriving DecidableEq, Inhabited

namespace Options

def none : Options := ⟨.none, .none, .none, .none, .none, .none⟩

/-- Gives an option a value; nothing if it has one. -/
def setOnce {α : Type} (old : Option α) (value : Option α) : Option (Option α) :=
  match old, value with
  | .none, some value => some (some value)
  | _, _ => .none

/-- The name of a file, which is never empty. -/
def fileName? (value : String) : Option String := if value.isEmpty then .none else some value

/-- The options after one more; nothing if there is no such option, it was given before, or the
value does not suit it. -/
def set (options : Options) (name value : String) : Option Options :=
  if name = "definition" then
    (setOnce options.definition (fileName? value)).map fun v => { options with definition := v }
  else if name = "backend" then
    (setOnce options.backend (BackendKind.byName.lookup value)).map fun v =>
      { options with backend := v }
  else if name = "grpc-endpoint" then
    (setOnce options.grpcEndpoint (some value)).map fun v => { options with grpcEndpoint := v }
  else if name = "config" then
    (setOnce options.config (fileName? value)).map fun v => { options with config := v }
  else if name = "log-level" then
    (setOnce options.logLevel (some value)).map fun v => { options with logLevel := v }
  else if name = "name" then
    (setOnce options.name (some value)).map fun v => { options with name := v }
  else .none

/-- The name in an argument that starts an option, and the value if it holds one. -/
def split? (argument : String) : Option (String × Option String) :=
  match argument.toList with
  | '-' :: '-' :: c :: rest =>
    let text := c :: rest
    let name := text.takeWhile (· != '=')
    match text.drop name.length with
    | _ :: value => some (String.ofList name, some (String.ofList value))
    | [] => some (String.ofList name, .none)
  | _ => .none

/-- Whether an argument may be the value of the option before it. -/
def isValue (argument : String) : Bool := argument = "-" || argument.toList.head? != some '-'

/-- The options after those that the arguments give. Two dashes alone may stand at the end. -/
def parseFrom : List String → Options → Option Options
  | [], options => some options
  | argument :: rest, options =>
    if argument = "--" then if rest.isEmpty then some options else .none
    else
      match split? argument with
      | .none => .none
      | some (name, some value) => (options.set name value).bind (parseFrom rest)
      | some (name, .none) =>
        match rest with
        | value :: rest =>
          if isValue value then (options.set name value).bind (parseFrom rest) else .none
        | [] => .none

def parse (arguments : List String) : Option Options := parseFrom arguments none

/-- The settings with the options in place of what they choose. -/
def applyTo (options : Options) (settings : Settings) : Settings where
  server :=
    { name := options.name <|> settings.server.name
      logLevel := options.logLevel.getD settings.server.logLevel }
  definition :=
    { settings.definition with path := options.definition <|> settings.definition.path }
  backend :=
    { settings.backend with
      kind := options.backend.getD settings.backend.kind
      grpcEndpoint := options.grpcEndpoint.getD settings.backend.grpcEndpoint }

end Options

end ToolGateway
