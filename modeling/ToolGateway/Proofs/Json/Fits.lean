import ToolGateway.Json.Basic

/-!
# Values that fit the limits of JSON texts

A value `Fits` a depth when its arrays and objects are nested at most that deep, its objects name
each member once, and its whole numbers lie within 64 bits: the limits under which a text is read. It
is `Exact` when it also holds no floating-point number, whose digits need not bring it back.
-/

namespace ToolGateway.Json

/-- Whether a floating-point number stands anywhere in a value. -/
inductive HasFloat : Json → Prop where
  | here {x : Binary64} : HasFloat (.number (.float x))
  | item {item : Json} {items : List Json} (member : item ∈ items) (inside : HasFloat item) :
      HasFloat (.array items)
  | member {entry : String × Json} {members : List (String × Json)} (member : entry ∈ members)
      (inside : HasFloat entry.2) : HasFloat (.object members)

/-- Whether a value keeps the limits, nested at most `depth` deep. -/
inductive Fits : Nat → Json → Prop where
  | null {depth : Nat} : Fits depth .null
  | boolean {depth : Nat} {flag : Bool} : Fits depth (.boolean flag)
  | integer {depth : Nat} {n : Int} (wide : isWide n = true) : Fits depth (.number (.integer n))
  | float {depth : Nat} {x : Binary64} : Fits depth (.number (.float x))
  | string {depth : Nat} {text : String} : Fits depth (.string text)
  | array {depth : Nat} {items : List Json} (all : ∀ item ∈ items, Fits depth item) :
      Fits (depth + 1) (.array items)
  | object {depth : Nat} {members : List (String × Json)}
      (differ : (Members.names members).Nodup) (all : ∀ entry ∈ members, Fits depth entry.2) :
      Fits (depth + 1) (.object members)

theorem Fits.mono {value : Json} {depth depth' : Nat} (fits : Fits depth value)
    (le : depth ≤ depth') : Fits depth' value := by
  induction fits generalizing depth' with
  | null => exact .null
  | boolean => exact .boolean
  | integer wide => exact .integer wide
  | float => exact .float
  | string => exact .string
  | array _ ih =>
    obtain ⟨inner, rfl⟩ := Nat.exists_eq_add_one_of_ne_zero (by omega : depth' ≠ 0)
    exact .array fun item member => ih item member (by omega)
  | object differ _ ih =>
    obtain ⟨inner, rfl⟩ := Nat.exists_eq_add_one_of_ne_zero (by omega : depth' ≠ 0)
    exact .object differ fun entry member => ih entry member (by omega)

theorem Fits.item {items : List Json} {depth : Nat} (fits : Fits (depth + 1) (.array items))
    {item : Json} (member : item ∈ items) : Fits depth item := by
  cases fits with
  | array all => exact all item member

theorem Fits.entry {members : List (String × Json)} {depth : Nat}
    (fits : Fits (depth + 1) (.object members)) {entry : String × Json} (member : entry ∈ members) :
    Fits depth entry.2 := by
  cases fits with
  | object _ all => exact all entry member

/-! ## Exact values -/

/-- Whether a value keeps the limits and holds no floating-point number. -/
structure Exact (depth : Nat) (value : Json) : Prop where
  fits : Fits depth value
  plain : ¬ HasFloat value

section

variable {depth : Nat}

theorem Exact.mono {value : Json} {depth' : Nat} (exact : Exact depth value) (le : depth ≤ depth') :
    Exact depth' value :=
  ⟨exact.fits.mono le, exact.plain⟩

@[simp]
theorem exact_null : Exact depth .null := ⟨.null, nofun⟩

@[simp]
theorem exact_boolean (flag : Bool) : Exact depth (.boolean flag) := ⟨.boolean, nofun⟩

@[simp]
theorem exact_string (text : String) : Exact depth (.string text) := ⟨.string, nofun⟩

@[simp]
theorem exact_integer_iff {n : Int} : Exact depth (.number (.integer n)) ↔ isWide n = true := by
  constructor
  · rintro ⟨fits, -⟩
    cases fits with
    | integer wide => exact wide
  · intro wide
    exact ⟨.integer wide, nofun⟩

@[simp]
theorem exact_array_iff {items : List Json} :
    Exact (depth + 1) (.array items) ↔ ∀ item ∈ items, Exact depth item := by
  constructor
  · rintro ⟨fits, plain⟩ item member
    exact ⟨fits.item member, fun inside => plain (.item member inside)⟩
  · intro all
    refine ⟨.array fun item member => (all item member).fits, ?_⟩
    rintro (_ | ⟨member, inside⟩)
    exact (all _ member).plain inside

@[simp]
theorem exact_object_iff {members : List (String × Json)} :
    Exact (depth + 1) (.object members) ↔
      (Members.names members).Nodup ∧ ∀ entry ∈ members, Exact depth entry.2 := by
  constructor
  · rintro ⟨fits, plain⟩
    cases fits with
    | object differ all =>
      refine ⟨differ, fun entry member => ⟨all entry member, ?_⟩⟩
      exact fun inside => plain (.member member inside)
  · rintro ⟨differ, all⟩
    refine ⟨.object differ fun entry member => (all entry member).fits, ?_⟩
    rintro (_ | _ | ⟨member, inside⟩)
    exact (all _ member).plain inside

end

end ToolGateway.Json
