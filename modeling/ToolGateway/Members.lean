/-!
# Named values in order

An object of a data format: a list of named values that keeps the order in which the names first
came. Looking up, replacing and removing follow one rule each:

* `put` gives a known name its new value where it stands and adds an unknown name at the end;
* `take?` removes a name by moving the last entry into its place.
-/

namespace ToolGateway

/-- Named values in the order of their names' first appearance. -/
abbrev Members (α : Type) := List (String × α)

namespace Members

variable {α : Type}

/-- The first value of a name. -/
def find? : Members α → String → Option α
  | [], _ => none
  | (key, value) :: rest, name => if key = name then some value else find? rest name

/-- The names in order. -/
def names (members : Members α) : List String :=
  members.map Prod.fst

/-- Gives `name` the value `value`: in place if the name is there, else at the end. -/
def put : Members α → String → α → Members α
  | [], name, value => [(name, value)]
  | (key, old) :: rest, name, value =>
    if key = name then (key, value) :: rest else (key, old) :: put rest name value

/-- A name that is put has the value put; all other names keep theirs. -/
@[simp]
theorem find?_put (members : Members α) (name other : String) (value : α) :
    (members.put name value).find? other =
      if other = name then some value else members.find? other := by
  induction members with
  | nil => simp [put, find?, eq_comm]
  | cons entry rest ih =>
    by_cases found : entry.1 = name
    · by_cases same : other = name <;> simp_all [put, find?, eq_comm]
    · by_cases same : other = name <;> simp_all [put, find?]

/-- Takes `name` out and returns its value; the last entry moves into the freed place. -/
def take? : Members α → String → Option (α × Members α)
  | [], _ => none
  | (key, value) :: rest, name =>
    if key = name then
      some (value, match rest.getLast? with
        | none => []
        | some last => last :: rest.dropLast)
    else (take? rest name).map fun (found, left) => (found, (key, value) :: left)

/-- Puts all entries of `more`, one after the other. -/
def putAll (members more : Members α) : Members α :=
  more.foldl (fun acc (name, value) => acc.put name value) members

end Members

end ToolGateway
