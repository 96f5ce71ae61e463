/-!
# Sets of names

A set of names is kept as its increasing list, so two sets with the same names are equal.
-/

namespace ToolGateway

/-- A finite set of names. -/
structure NameSet where
  toList : List String
  increasing : toList.Pairwise (· < ·)
deriving DecidableEq

namespace NameSet

/-- Puts a name where it belongs in an increasing list. -/
def insertInto (name : String) : List String → List String
  | [] => [name]
  | first :: rest =>
    if name = first then first :: rest
    else if name < first then name :: first :: rest
    else first :: insertInto name rest

theorem mem_insertInto {name other : String} {names : List String} :
    other ∈ insertInto name names ↔ other = name ∨ other ∈ names := by
  induction names with
  | nil => simp [insertInto]
  | cons first rest ih =>
    unfold insertInto
    split
    · simp_all
    · split
      · simp
      · simp only [List.mem_cons, ih]
        grind

theorem pairwise_insertInto {name : String} {names : List String}
    (h : names.Pairwise (· < ·)) : (insertInto name names).Pairwise (· < ·) := by
  induction names with
  | nil => simp [insertInto]
  | cons first rest ih =>
    obtain ⟨least, tail⟩ := List.pairwise_cons.mp h
    unfold insertInto
    split
    · exact h
    next different =>
      split
      next smaller =>
        refine List.pairwise_cons.mpr ⟨fun other member => ?_, h⟩
        rcases List.mem_cons.mp member with rfl | member
        · exact smaller
        · exact String.lt_trans smaller (least other member)
      next notSmaller =>
        refine List.pairwise_cons.mpr ⟨fun other member => ?_, ih tail⟩
        rcases mem_insertInto.mp member with rfl | member
        · grind
        · exact least other member

def empty : NameSet := ⟨[], .nil⟩

instance : Inhabited NameSet := ⟨empty⟩

def insert (set : NameSet) (name : String) : NameSet :=
  ⟨insertInto name set.toList, pairwise_insertInto set.increasing⟩

@[simp]
theorem mem_insert {set : NameSet} {name other : String} :
    other ∈ (set.insert name).toList ↔ other = name ∨ other ∈ set.toList :=
  mem_insertInto

def ofList (names : List String) : NameSet :=
  names.foldl insert empty

theorem mem_foldl_insert {names : List String} {set : NameSet} {other : String} :
    other ∈ (names.foldl insert set).toList ↔ other ∈ names ∨ other ∈ set.toList := by
  induction names generalizing set with
  | nil => simp
  | cons name rest ih =>
    rw [List.foldl_cons, ih, mem_insert, List.mem_cons]
    grind

/-- A set made from a list has exactly the names of the list. -/
@[simp]
theorem mem_ofList {names : List String} {other : String} :
    other ∈ (ofList names).toList ↔ other ∈ names := by
  simp [ofList, mem_foldl_insert, empty]

def contains (set : NameSet) (name : String) : Bool := set.toList.contains name

end NameSet

end ToolGateway
