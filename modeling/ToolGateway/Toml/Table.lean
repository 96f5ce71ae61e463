import ToolGateway.Toml.Basic

/-!
# Tables under construction

The statements of a TOML document fill tables step by step. A table under construction knows how it
came about, because that decides which later statements may add to it: a table with a header of its
own is closed to dotted keys, a table made by dotted keys is closed to headers, and a table that
only stands in the path of a header may still get one.
-/

namespace ToolGateway.Toml

/-- How a table came about. -/
inductive Origin where
  /-- It has a header, or is the document itself. -/
  | header
  /-- It stands in the path of a header. -/
  | implied
  /-- It stands in a dotted key. -/
  | dotted
deriving DecidableEq, Inhabited

/-- What a key under construction stands for. -/
inductive Node where
  | value (value : Toml)
  | table (origin : Origin) (entries : List (String × Node))
  | rows (rows : List (List (String × Node)))
deriving Inhabited

/-- The entries of a table under construction. -/
abbrev Entries := Members Node

/-- Changes the table that `path` leads to from a table. Tables on the way that do not exist are
made, with the given origin; a list of tables stands for its last one. A dotted path does not go
into tables with a header. -/
def changeAt (made : Origin) (change : Origin → Entries → Option Entries) :
    List String → Origin → Entries → Option Entries
  | [], origin, entries => change origin entries
  | name :: path, _, entries => do
    match Members.find? entries name with
    | none =>
      let inner ← changeAt made change path made []
      return entries.put name (.table made inner)
    | some (.value _) => none
    | some (.table origin inner) =>
      if made = .dotted ∧ origin = .header then none
      let inner ← changeAt made change path origin inner
      return entries.put name (.table origin inner)
    | some (.rows rows) =>
      let last ← rows.getLast?
      let last ← changeAt made change path .header last
      return entries.put name (.rows (rows.dropLast ++ [last]))

/-- Gives a dotted key its value. The key must be new, and the table it stands in must be the
current one or made by dotted keys. -/
def assign (path : List String) (name : String) (value : Node) (entries : Entries) :
    Option Entries :=
  changeAt .dotted (fun origin inner =>
    if !path.isEmpty ∧ origin ≠ .dotted then none
    else if (Members.find? inner name).isSome then none
    else some (inner ++ [(name, value)])) path .header entries

/-- A key and its value. -/
structure Assignment where
  path : List String
  name : String
  value : Toml

/-- Fills a table with assignments, one after the other. -/
def assignAll (assignments : List Assignment) (entries : Entries) : Option Entries :=
  assignments.foldlM (fun entries a => assign a.path a.name (.value a.value) entries) entries

/-- A header and the assignments under it. -/
structure Section where
  /-- Whether the header adds a table to a list of tables. -/
  addsRow : Bool
  path : List String
  name : String
  assignments : List Assignment

/-- Adds a section to the document. A table that so far only stood in paths keeps its entries and
moves to the end. -/
def addSection (document : Entries) (s : Section) : Option Entries :=
  changeAt .implied (fun _ parent => do
    match s.addsRow, Members.find? parent s.name with
    | true, none =>
      let row ← assignAll s.assignments []
      return parent ++ [(s.name, .rows [row])]
    | true, some (.rows rows) =>
      let row ← assignAll s.assignments []
      return parent.put s.name (.rows (rows ++ [row]))
    | false, none =>
      let table ← assignAll s.assignments []
      return parent ++ [(s.name, .table .header table)]
    | false, some (.table .implied entries) =>
      let table ← assignAll s.assignments entries
      return parent.filter (·.1 != s.name) ++ [(s.name, .table .header table)]
    | _, _ => none) s.path .header document

mutual

def Node.toToml : Node → Toml
  | .value value => value
  | .table _ entries => .table (entriesToToml entries)
  | .rows rows => .array (rowsToToml rows)

def entriesToToml : List (String × Node) → List (String × Toml)
  | [] => []
  | (name, node) :: rest => (name, node.toToml) :: entriesToToml rest

def rowsToToml : List (List (String × Node)) → List Toml
  | [] => []
  | row :: rest => .table (entriesToToml row) :: rowsToToml rest

end

end ToolGateway.Toml
