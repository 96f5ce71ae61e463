/-!
# Faults of files

Why a file cannot be read as text, and how each reason is worded.
-/

namespace ToolGateway

/-- Why a file cannot be read as text. -/
inductive FileFault where
  | notFound
  /-- A path goes through a file as if it were a directory. -/
  | notDirectory
  | isDirectory
  | nameTooLong
  /-- A path holds the character that ends paths. -/
  | zeroCharacter
  | notText
  /-- Any other reason, in the words of the system. -/
  | other (reason : String)
deriving DecidableEq, Inhabited

def FileFault.message : FileFault → String
  | notFound => "No such file or directory (os error 2)"
  | notDirectory => "Not a directory (os error 20)"
  | isDirectory => "Is a directory (os error 21)"
  | nameTooLong => "File name too long (os error 36)"
  | zeroCharacter => "file name contained an unexpected NUL byte"
  | notText => "stream did not contain valid UTF-8"
  | other reason => reason

end ToolGateway
