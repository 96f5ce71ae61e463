import ToolGateway.Proofs.Json.Fits
import ToolGateway.Proofs.Json.Reading
import ToolGateway.Proofs.Members

/-!
# What is read keeps the limits

Every value that is read from a text fits the limit of nested values (`fits_of_parse`). This is read
off the grammar: a numeral that becomes a whole number has a significand of 64 bits, and the entries
of an object are put under different names.
-/

namespace ToolGateway.Json

open Grammar

/-! ## Whole numbers -/

theorem Significand.append_lt {s : Significand} (small : s.value < wordCount64)
    (digits : List UInt8) : (s.append digits).value < wordCount64 := by
  induction digits generalizing s with
  | nil => exact small
  | cons d digits ih =>
    unfold append
    dsimp only
    split
    next fits => exact ih fits
    next => exact small

theorem floatNumber_ne_integer {negative : Bool} {significand : Nat} {exponent n : Int} :
    floatNumber negative significand exponent ≠ .ok (.integer n) := by
  unfold floatNumber
  split <;> simp

theorem isWide_of_wholeNumber {negative : Bool} {s : Significand} {n : Int}
    (small : s.value < wordCount64) (whole : wholeNumber negative s = .ok (.integer n)) :
    isWide n = true := by
  unfold wholeNumber at whole
  split at whole
  · exact absurd whole floatNumber_ne_integer
  split at whole
  · obtain rfl := JsonNumber.integer.inj (Except.ok.inj whole)
    simp only [wordCount64] at small
    simp only [isWide, Bool.and_eq_true, decide_eq_true_eq]
    omega
  split at whole
  · cases whole
  next held =>
    obtain rfl := JsonNumber.integer.inj (Except.ok.inj whole)
    simp only [not_or, isInt64, Bool.not_eq_true', Bool.not_eq_false, Bool.and_eq_true,
      decide_eq_true_eq] at held
    simp only [isWide, Bool.and_eq_true, decide_eq_true_eq]
    omega

/-- A number that is read as a whole number is one of 64 bits. -/
theorem isWide_of_value {written : NumberText} {negative : Bool} {n : Int}
    (value : written.value negative = .ok (.integer n)) : isWide n = true := by
  unfold NumberText.value at value
  dsimp only at value
  split at value
  · exact isWide_of_wholeNumber (Significand.append_lt (by decide) _) value
  split at value
  · exact absurd value floatNumber_ne_integer
  split at value
  · exact absurd value floatNumber_ne_integer
  split at value <;> cases value

theorem fits_number {written : NumberText} {negative : Bool} {number : JsonNumber}
    (value : written.value negative = .ok number) (depth : Nat) : Fits depth (.number number) := by
  cases number with
  | integer n => exact .integer (isWide_of_value value)
  | float x => exact .float

/-! ## Values -/

theorem fits_word {letter : UInt8} {letters : List UInt8} {constant : Json}
    (known : (letter, letters, constant) ∈ words) (depth : Nat) : Fits depth constant := by
  simp only [words, List.mem_cons, Prod.mk.injEq, List.not_mem_nil, or_false] at known
  rcases known with ⟨-, -, rfl⟩ | ⟨-, -, rfl⟩ | ⟨-, -, rfl⟩
  · exact .null
  · exact .boolean
  · exact .boolean

theorem fits_object {depth : Nat} {entries : List (String × Json)}
    (all : ∀ entry ∈ entries, Fits depth entry.2) :
    Fits (depth + 1) (.object (Members.putAll [] entries)) := by
  have none : (Members.names ([] : Json.Object)).Nodup := List.nodup_nil
  refine .object (Members.nodup_putAll none entries) ?_
  intro entry member
  rcases Members.mem_of_mem_putAll member with none | member
  · cases none
  · exact all entry member

mutual

theorem fits_of_value {depth : Nat} {text rest : List UInt8} {value : Json} :
    Value depth text value rest → Fits depth value
  | .word known => fits_word known depth
  | .positive _ value => fits_number value depth
  | .negative _ value => fits_number value depth
  | .string _ => .string
  | .noItems _ => .array (List.forall_mem_nil _)
  | .array _ listed => .array (fits_of_items listed)
  | .object listed => fits_object (fits_of_object listed)

theorem fits_of_items {depth : Nat} {text rest : List UInt8} {items : List Json} :
    Items depth text items rest → ∀ item ∈ items, Fits depth item
  | .last value _ => List.forall_mem_singleton.mpr (fits_of_value value)
  | .more value _ _ listed => List.forall_mem_cons.mpr ⟨fits_of_value value, fits_of_items listed⟩

theorem fits_of_object {depth : Nat} {text rest : List UInt8} {entries : List (String × Json)} :
    Grammar.Object depth text entries rest → ∀ entry ∈ entries, Fits depth entry.2
  | .empty _ => List.forall_mem_nil _
  | .filled _ listed => fits_of_entries listed

theorem fits_of_entry {depth : Nat} {text rest : List UInt8} {entry : String × Json} :
    Entry depth text entry rest → Fits depth entry.2
  | .mk _ _ _ valued => fits_of_value valued

theorem fits_of_entries {depth : Nat} {text rest : List UInt8} {entries : List (String × Json)} :
    Entries depth text entries rest → ∀ entry ∈ entries, Fits depth entry.2
  | .last first _ => List.forall_mem_singleton.mpr (fits_of_entry first)
  | .more first _ _ listed => List.forall_mem_cons.mpr ⟨fits_of_entry first, fits_of_entries listed⟩

end

/-- What is read from a text keeps the limits. -/
theorem fits_of_parse {text : List UInt8} {value : Json} (read : parse text = .ok value) :
    Fits depthLimit value := by
  obtain ⟨body, rest, -, derived, -⟩ := parse_eq_ok_iff.mp read
  exact fits_of_value derived

end ToolGateway.Json
