import ToolGateway.Files.Fault
import ToolGateway.Members
import ToolGateway.Text.Utf8

/-!
# Trees of files

The files of a host as a tree of directories, and what reading the file at a path comes to. A path
is followed name by name, and the first name that does not lead on is what the fault is about.
-/

namespace ToolGateway

/-- What a name stands for: a file with its content, or a directory with its entries. -/
inductive FileTree where
  | file (content : List UInt8)
  | directory (entries : List (String × FileTree))
deriving Inhabited

namespace FileTree

def nameLimit : Nat := 255

def pathLimit : Nat := 4095

/-- Follows names from a place in the tree; `above` holds the directories over it, the nearest
first. The root is its own parent. -/
def follow : List String → FileTree → List FileTree → Except FileFault FileTree
  | [], here, _ => .ok here
  | _ :: _, .file _, _ => .error .notDirectory
  | name :: names, .directory entries, above =>
    if name = "" ∨ name = "." then follow names (.directory entries) above
    else if name = ".." then
      match above with
      | [] => follow names (.directory entries) []
      | parent :: above => follow names parent above
    else if nameLimit < (Utf8.bytes name).length then .error .nameTooLong
    else
      match Members.find? entries name with
      | none => .error .notFound
      | some inner => follow names inner (.directory entries :: above)

def namesOf (path : String) : List String := (path.toList.splitOn '/').map String.ofList

/-- What a path leads to in a tree, for a program that works in the directory `working`. -/
def locate (root : FileTree) (working : List String) (path : String) : Except FileFault FileTree :=
  let bytes := Utf8.bytes path
  if bytes.contains 0 then .error .zeroCharacter
  else if bytes.isEmpty then .error .notFound
  else if pathLimit < bytes.length then .error .nameTooLong
  else
    follow (if path.toList.head? = some '/' then namesOf path else working ++ namesOf path) root []

def read (root : FileTree) (working : List String) (path : String) :
    Except FileFault (List UInt8) :=
  match root.locate working path with
  | .error fault => .error fault
  | .ok (.directory _) => .error .isDirectory
  | .ok (.file content) => .ok content

end FileTree

end ToolGateway
