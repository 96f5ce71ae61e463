import ToolGateway.Json.Printer
import ToolGateway.Proofs.Text.Utf8

/-!
# The compact form has no control characters

Whatever a value holds, its compact form consists of characters from U+0020 on: inside strings the
others are escaped, and nothing else brings any. So none of its bytes lies below `0x20`, and no line
feed can stand in it.
-/

namespace ToolGateway.Json

/-- Whether all characters of a text are from U+0020 on. -/
def Printed (chars : List Char) : Prop := ∀ c ∈ chars, 0x20 ≤ c.toNat

@[simp]
theorem printed_nil : Printed [] := List.forall_mem_nil _

@[simp]
theorem printed_cons {c : Char} {chars : List Char} :
    Printed (c :: chars) ↔ 0x20 ≤ c.toNat ∧ Printed chars := List.forall_mem_cons

@[simp]
theorem printed_append {first second : List Char} :
    Printed (first ++ second) ↔ Printed first ∧ Printed second := List.forall_mem_append

/-! ## Numbers -/

@[simp]
theorem printed_toDigits (n : Nat) : Printed (Nat.toDigits 10 n) := by
  intro c member
  have digit := Nat.isDigit_of_mem_toDigits (by decide) (by decide) member
  simp only [Char.isDigit, Bool.and_eq_true, decide_eq_true_eq] at digit
  have : 48 ≤ c.toNat := digit.1
  omega

theorem printed_integerChars (n : Int) : Printed (integerChars n) := by
  unfold integerChars
  split <;> simp [printed_toDigits]

@[simp]
theorem printed_zeros (count : Nat) : Printed (NumberLayout.zeros count).toList := by
  rw [NumberLayout.zeros, String.toList_ofList]
  intro c member
  rw [List.eq_of_mem_replicate member]
  decide

theorem Printed.sublist {chars more : List Char} (printed : Printed more)
    (sublist : chars.Sublist more) : Printed chars :=
  fun c member => printed c (sublist.subset member)

theorem printed_place {digits : List Char} (printed : Printed digits) (whole : Int) :
    Printed (NumberLayout.wire.place digits whole).toList := by
  have wholeEnd : Printed NumberLayout.wire.wholeEnd.toList := by simp [NumberLayout.wire]
  unfold NumberLayout.place
  split
  · simp [printed]
  · dsimp only
    split
    · simp [printed, wholeEnd]
    · simp [printed.sublist (List.take_sublist _ _), printed.sublist (List.drop_sublist _ _)]

theorem printed_scientific {digits : List Char} (printed : Printed digits) (leading : Int) :
    Printed (NumberLayout.wire.scientific digits leading).toList := by
  have first := printed.sublist (List.take_sublist 1 digits)
  have others := printed.sublist (List.tail_sublist digits)
  have exponentSign : Printed NumberLayout.wire.exponentSign.toList := by simp [NumberLayout.wire]
  unfold NumberLayout.scientific
  dsimp only
  split <;> split <;> simp [first, others, exponentSign]

theorem printed_text (x : Binary64) : Printed (NumberLayout.wire.text x).toList := by
  let all := Nat.toDigits 10 (x.shortest NumberLayout.wire.tie).digits
  let kept := (all.reverse.dropWhile (· = '0')).reverse
  have within : kept.Sublist all := by
    have := (List.dropWhile_sublist (· = '0') (l := all.reverse)).reverse
    rwa [List.reverse_reverse] at this
  have digits : Printed (if kept.isEmpty then ['0'] else kept) := by
    split
    · simp
    · exact (printed_toDigits _).sublist within
  have sign : Printed (if x.negative then "-" else "").toList := by
    split <;> simp
  unfold NumberLayout.text
  dsimp only
  rw [String.toList_append, printed_append]
  refine ⟨sign, ?_⟩
  split
  · exact printed_place digits _
  · exact printed_scientific digits _

theorem printed_numberChars (number : JsonNumber) : Printed (numberChars number) := by
  cases number with
  | integer n => exact printed_integerChars n
  | float x => exact printed_text x

/-! ## Strings -/

theorem printed_escape (c : Char) : Printed (escape c) := by
  have digits : ∀ n < 16, 0x20 ≤ (hexDigit n).toNat := by decide
  unfold escape
  split
  · simp
  split
  · simp
  split
  next printed => simpa using printed
  next control =>
    have high := digits (c.toNat / 16) (by omega)
    have low := digits (c.toNat % 16) (by omega)
    split
    · simp
    split
    · simp
    split
    · simp
    split
    · simp
    split
    · simp
    · simpa using ⟨high, low⟩

theorem printed_quoted (text : String) : Printed (quoted text) := by
  have inside : Printed (text.toList.flatMap escape) := by
    intro c member
    obtain ⟨source, -, member⟩ := List.mem_flatMap.mp member
    exact printed_escape source c member
  simp [quoted, inside]

/-! ## Values -/

mutual

theorem printed_compactChars (value : Json) : Printed (compactChars value) := by
  cases value with
  | null => simp [compactChars, nullChars]
  | boolean flag => cases flag <;> simp [compactChars, booleanChars]
  | number number => exact printed_numberChars number
  | string text => exact printed_quoted text
  | array items => simp [compactChars, printed_compactItems items]
  | object members => simp [compactChars, printed_compactMembers members]

theorem printed_compactItems (items : List Json) : Printed (compactItems items) := by
  match items with
  | [] => simp [compactItems]
  | [item] => simp [compactItems, printed_compactChars item]
  | item :: next :: rest =>
    simp [compactItems, printed_compactChars item, printed_compactItems (next :: rest)]

theorem printed_compactMembers (members : List (String × Json)) :
    Printed (compactMembers members) := by
  match members with
  | [] => simp [compactMembers]
  | [(name, value)] => simp [compactMembers, printed_quoted, printed_compactChars value]
  | (name, value) :: next :: rest =>
    simp [compactMembers, printed_quoted, printed_compactChars value,
      printed_compactMembers (next :: rest)]

end

/-- No byte of a compact form is one of a control character. -/
theorem le_of_mem_bytes_compact (value : Json) {b : UInt8}
    (member : b ∈ Utf8.bytes value.compact) : 0x20 ≤ b := by
  rw [Utf8.bytes, compact, String.toList_ofList] at member
  obtain ⟨c, written, member⟩ := List.mem_flatMap.mp member
  have printed := printed_compactChars value c written
  have := Utf8.toNat_of_mem_encode member
  rw [UInt8.le_iff_toNat_le]
  show 32 ≤ b.toNat
  omega

end ToolGateway.Json
