import ToolGateway.Toml.Scalar
import ToolGateway.Toml.Table

/-!
# Reading TOML

`Toml.read?` reads a text as a TOML 1.0 document. The lines of the document become sections of
assignments, and the sections are then added to an empty document one after the other.
-/

namespace ToolGateway.Toml

/-- How deep arrays and inline tables may be nested. -/
def nestingLimit : Nat := 79

def keyLimit : Nat := 79

/-- Takes a key; its last part is the name, the others are the path. -/
def pathAndName (fuel : Nat) : Scanner (List String × String) := do
  let parts ← key fuel
  guard (parts.length ≤ keyLimit)
  match parts.getLast? with
  | some name => return (parts.dropLast, name)
  | none => failure

mutual

/-- Takes a value whose arrays and inline tables are nested at most `depth` deep. -/
def value : Nat → Nat → Scanner Toml
  | 0, _ => failure
  | fuel + 1, depth => do
    match ← Scanner.peek with
    | some '"' | some '\x27' => Toml.string <$> anyString fuel
    | some '[' =>
      let _ ← Scanner.next
      match depth with
      | 0 => failure
      | depth + 1 => items fuel depth []
    | some '{' =>
      let _ ← Scanner.next
      match depth with
      | 0 => failure
      | depth + 1 =>
        skipBlanks
        if ← Scanner.accept ['}'] then return .table []
        inlineMembers fuel depth []
    | some 't' =>
      Scanner.takeExactly ['t', 'r', 'u', 'e']
      return .boolean true
    | some 'f' =>
      Scanner.takeExactly ['f', 'a', 'l', 's', 'e']
      return .boolean false
    | some _ => numeric fuel
    | none => failure

/-- Takes the items of an array from the next one on; the last one may have a comma after it. -/
def items : Nat → Nat → List Toml → Scanner Toml
  | 0, _, _ => failure
  | fuel + 1, depth, done => do
    skipSpace fuel
    if ← Scanner.accept [']'] then return .array done.reverse
    let item ← value fuel depth
    skipSpace fuel
    if ← Scanner.accept [','] then items fuel depth (item :: done)
    else
      Scanner.takeExactly [']']
      return .array (item :: done).reverse

/-- Takes the members of an inline table from the next one on. -/
def inlineMembers : Nat → Nat → List Assignment → Scanner Toml
  | 0, _, _ => failure
  | fuel + 1, depth, done => do
    let (path, name) ← pathAndName fuel
    Scanner.takeExactly ['=']
    skipBlanks
    let value ← value fuel depth
    skipBlanks
    let done := ⟨path, name, value⟩ :: done
    if ← Scanner.accept [','] then inlineMembers fuel depth done
    else
      Scanner.takeExactly ['}']
      match assignAll done.reverse [] with
      | some entries => return .table (entriesToToml entries)
      | none => failure

end

def assignment (fuel : Nat) : Scanner Assignment := do
  let (path, name) ← pathAndName fuel
  Scanner.takeExactly ['=']
  skipBlanks
  let value ← value fuel nestingLimit
  lineEnd
  return ⟨path, name, value⟩

/-- Takes a header and the end of its line, its first bracket taken. -/
def header (fuel : Nat) : Scanner Section := do
  let addsRow ← Scanner.accept ['[']
  let (path, name) ← pathAndName fuel
  Scanner.takeExactly (if addsRow then [']', ']'] else [']'])
  lineEnd
  return ⟨addsRow, path, name, []⟩

/-- Takes the assignments up to the next header, with the blank lines and comments between. -/
def assignments : Nat → List Assignment → Scanner (List Assignment)
  | 0, _ => failure
  | fuel + 1, done => do
    skipSpaceToEnd fuel
    match ← Scanner.peek with
    | none | some '[' => return done.reverse
    | some _ => assignments fuel ((← assignment fuel) :: done)
where
  /-- Takes blank lines and comments; the last one may end with the text. -/
  skipSpaceToEnd : Nat → Scanner Unit
    | 0 => failure
    | fuel + 1 => do
      skipBlanks
      match ← Scanner.peek with
      | some '#' | some '\n' | some '\r' =>
        lineEnd
        skipSpaceToEnd fuel
      | _ => return

/-- Takes the sections up to the end of the text. -/
def sections : Nat → List Section → Scanner (List Section)
  | 0, _ => failure
  | fuel + 1, done => do
    if ← Scanner.atEnd then return done.reverse
    Scanner.takeExactly ['[']
    let opened ← header fuel
    let filled := { opened with assignments := ← assignments fuel [] }
    sections fuel (filled :: done)

/-- A document: the assignments before the first header, and the sections. -/
def document (fuel : Nat) : Scanner Entries := do
  let _ ← Scanner.accept ['\uFEFF']
  let top ← assignments fuel []
  let rest ← sections fuel []
  match (assignAll top [] >>= fun start => rest.foldlM addSection start) with
  | some entries => return entries
  | none => failure

/-- The table a text holds, if the text is a TOML document. -/
def read? (text : String) : Option (Members Toml) :=
  let chars := text.toList
  ((document (2 * chars.length + 4)).run chars).map fun (entries, _) => entriesToToml entries

end ToolGateway.Toml
