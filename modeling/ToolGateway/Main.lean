import ToolGateway.CommandLine.Startup
import ToolGateway.Users.Id

/-!
# The server program

Reads arguments, environment and files, starts a server, and answers the lines of the standard input
on the standard output. What it cannot do is said on the standard error.
-/

namespace ToolGateway.Program

/-- Why the system could not read a file. -/
def faultOf : IO.Error → FileFault
  | .noFileOrDirectory .. => .notFound
  | .inappropriateType _ 21 _ => .isDirectory
  | .inappropriateType .. => .notDirectory
  | .invalidArgument .. => .nameTooLong
  | fault => .other (toString fault)

def readContent (path : String) : IO (Except FileFault (List UInt8)) := do
  if path.toList.contains '\x00' then return .error .zeroCharacter
  try
    return .ok (← IO.FS.readBinFile path).toList
  catch fault => return .error (faultOf fault)

/-- The variables in a list of assignments with a zero byte after each. -/
def variablesOf (block : List UInt8) : List (String × String) :=
  (block.splitOn 0).filterMap fun entry =>
    let name := entry.takeWhile (· != 0x3D)
    match entry.drop name.length with
    | _ :: value => (Utf8.string? name).bind fun name =>
      (Utf8.string? value).map fun value => (name, value)
    | [] => none

def environment : IO (List (String × String)) := do
  match ← readContent "/proc/self/environ" with
  | .ok block => return variablesOf block
  | .error _ => return []

/-- A random number of 128 bits. -/
def randomStart : IO Nat := do
  return (← IO.getRandomBytes 16).toList.foldl (fun value b => value * 256 + b.toNat) 0

def withFile (host : Host Unit) (path : Option String) : IO (Host Unit) := do
  match path with
  | none => return host
  | some path =>
    let content ← readContent path
    return { host with
      fileContent := fun other => if other = path then content else host.fileContent other }

/-- The host of the program, with the files that its arguments and settings name. -/
def gather (arguments : List String) : IO (Host Unit) := do
  let host : Host Unit :=
    { arguments
      environment := ← environment
      fileContent := fun _ => .error .notFound
      ids := UserId.supply (← randomStart)
      remote := .outOfReach "no connection to the remote service can be made" }
  let config := (Options.parse arguments).bind Options.config
  let host ← withFile host config
  let host ← withFile host (config.map SettingsFile.withEnding)
  match host.settings with
  | .ok settings => withFile host settings.definition.path
  | .error _ => return host

/-- Writes a reply, if there is one. -/
def reply (output : IO.FS.Stream) : Option Response → IO Unit
  | some response => do
    output.write ⟨(Session.replyBytes response).toArray⟩
    output.flush
  | none => pure ()

/-- Takes byte after byte until the input ends. -/
partial def serve {σ : Type} (server : Server σ) (input output : IO.FS.Stream)
    (session : Session σ) : IO Unit := do
  match (← input.read 1).toList with
  | [] => reply output (session.endLine server).1
  | b :: _ =>
    let (response, session) := session.feed server b
    reply output response
    serve server input output session

end ToolGateway.Program

open ToolGateway in
/-- Starts a server and serves until the input ends. -/
def main (arguments : List String) : IO UInt32 := do
  let host ← Program.gather arguments
  match host.server with
  | .error error =>
    IO.eprintln ("Error: " ++ error.message)
    return error.exitStatus.toUInt32
  | .ok server =>
    Program.serve server (← IO.getStdin) (← IO.getStdout) (.start (Host.start ()))
    return 0
