import ToolGateway.Json.Number
import ToolGateway.Json.Printer
import ToolGateway.Proofs.Json.Grammar

/-!
# Whole numbers are read back

The digits written for a number are a numeral of the grammar, and the significand read from them is
the number as long as it fits 64 bits. The digits are taken from the last one on, as they are
written, and the significand grows with each of them.
-/

namespace ToolGateway.Json

/-- The bytes of a text that is given by its characters. -/
def encoded (chars : List Char) : List UInt8 := chars.flatMap String.utf8EncodeChar

@[simp]
theorem encoded_nil : encoded [] = [] := rfl

@[simp]
theorem encoded_cons (c : Char) (chars : List Char) :
    encoded (c :: chars) = String.utf8EncodeChar c ++ encoded chars := List.flatMap_cons

@[simp]
theorem encoded_append (first second : List Char) :
    encoded (first ++ second) = encoded first ++ encoded second := List.flatMap_append

/-! ## Digits -/

def digitByte (d : Nat) : UInt8 := UInt8.ofNat (0x30 + d)

theorem encode_digitChar : ∀ d < 10, String.utf8EncodeChar d.digitChar = [digitByte d] := by
  decide

theorem isDigit_digitByte : ∀ d < 10, isDigit (digitByte d) = true := by decide

theorem digitValue_digitByte : ∀ d < 10, digitValue (digitByte d) = d := by decide

theorem digitByte_ne_zero : ∀ d < 10, d ≠ 0 → digitByte d ≠ 0x30 := by decide

/-- The digits of a number, one after the other: all but the last one are those of its tenth. -/
theorem encoded_toDigits (n : Nat) : encoded (Nat.toDigits 10 n) =
    if n < 10 then [digitByte n]
    else encoded (Nat.toDigits 10 (n / 10)) ++ [digitByte (n % 10)] := by
  rw [Nat.toDigits_eq_if (by decide)]
  split
  next small => simp [encode_digitChar n small]
  next => simp [encode_digitChar (n % 10) (Nat.mod_lt _ (by decide))]

theorem isDigit_of_mem_toDigits (n : Nat) :
    ∀ b ∈ encoded (Nat.toDigits 10 n), isDigit b = true := by
  rw [encoded_toDigits]
  split
  next small => simpa using isDigit_digitByte n small
  next =>
    rw [List.forall_mem_append]
    refine ⟨isDigit_of_mem_toDigits (n / 10), ?_⟩
    simpa using isDigit_digitByte (n % 10) (Nat.mod_lt _ (by decide))

/-- Only zero begins with a zero. -/
theorem exists_first_toDigits {n : Nat} (positive : n ≠ 0) :
    ∃ b digits, encoded (Nat.toDigits 10 n) = b :: digits ∧ b ≠ 0x30 := by
  rw [encoded_toDigits]
  split
  next small => exact ⟨_, _, rfl, digitByte_ne_zero n small positive⟩
  next =>
    obtain ⟨b, digits, same, nonzero⟩ := exists_first_toDigits (n := n / 10) (by omega)
    exact ⟨b, digits ++ [digitByte (n % 10)], by rw [same, List.cons_append], nonzero⟩

/-! ## The significand -/

/-- A significand from which no digit was dropped goes on with further digits. -/
theorem Significand.append_append {s : Significand} {digits : List UInt8}
    (complete : (s.append digits).dropped = 0) (more : List UInt8) :
    s.append (digits ++ more) = (s.append digits).append more := by
  induction digits generalizing s with
  | nil => rfl
  | cons d digits ih =>
    simp only [List.cons_append, append] at complete ⊢
    split
    next fits =>
      rw [if_pos fits] at complete
      exact ih complete
    next stops =>
      rw [if_neg stops] at complete
      simp at complete

theorem exists_append_toDigits {n : Nat} (small : n < wordCount64) :
    ∃ kept, Significand.append ⟨0, 0, 0⟩ (encoded (Nat.toDigits 10 n)) = ⟨n, kept, 0⟩ := by
  rw [encoded_toDigits]
  split
  next single =>
    have value := digitValue_digitByte n single
    exact ⟨1, by simp [Significand.append, value, small]⟩
  next =>
    obtain ⟨kept, before⟩ := exists_append_toDigits (n := n / 10) (by omega)
    have value := digitValue_digitByte (n % 10) (Nat.mod_lt _ (by decide))
    have whole : n / 10 * 10 + n % 10 = n := Nat.div_add_mod' n 10
    refine ⟨kept + 1, ?_⟩
    rw [Significand.append_append (by rw [before]), before]
    simp [Significand.append, value, whole, small]

/-! ## Numerals -/

/-- What may stand behind a value: nothing, a blank, a comma or a closing bracket. -/
def Delimited (rest : List UInt8) : Prop :=
  ∀ b ∈ rest.head?, isBlank b = true ∨ b = 0x2C ∨ b = 0x5D ∨ b = 0x7D

theorem whole_toDigits (n : Nat) {rest : List UInt8} (ended : rest.head?.any isDigit = false) :
    Grammar.Whole (encoded (Nat.toDigits 10 n) ++ rest) (encoded (Nat.toDigits 10 n)) rest := by
  by_cases zero : n = 0
  · subst zero
    exact .zero ended
  · obtain ⟨b, digits, same, nonzero⟩ := exists_first_toDigits zero
    have all := isDigit_of_mem_toDigits n
    rw [same, List.forall_mem_cons] at all
    rw [same]
    exact .other all.1 nonzero ⟨rfl, all.2, ended⟩

/-- Behind a value nothing stands that could continue a number. -/
theorem Delimited.ends_number {rest : List UInt8} (ends : Delimited rest) :
    rest.head?.any isDigit = false ∧ rest.head? ≠ some 0x2E ∧
      ∀ b, rest.head? = some b → ¬ Grammar.isExponentLetter b := by
  cases rest with
  | nil => simp
  | cons b rest =>
    rcases ends b rfl with blank | rfl | rfl | rfl
    · simp only [isBlank, Bool.or_eq_true, beq_iff_eq] at blank
      rcases blank with ((rfl | rfl) | rfl) | rfl <;> simp [isDigit, Grammar.isExponentLetter]
    all_goals simp [isDigit, Grammar.isExponentLetter]

/-- The digits of a number are a numeral. -/
theorem numeral_toDigits (n : Nat) {rest : List UInt8} (ends : Delimited rest) :
    Grammar.Numeral (encoded (Nat.toDigits 10 n) ++ rest)
      ⟨encoded (Nat.toDigits 10 n), [], none⟩ rest := by
  obtain ⟨noDigit, pointless, unmarked⟩ := ends.ends_number
  exact .mk (whole_toDigits n noDigit) (.absent pointless) (.absent unmarked)

/-- A whole number of 64 bits is read back. -/
theorem value_toDigits {n : Nat} (small : n < wordCount64) (negative : Bool) :
    ∃ kept, NumberText.value ⟨encoded (Nat.toDigits 10 n), [], none⟩ negative =
      wholeNumber negative ⟨n, kept, 0⟩ := by
  obtain ⟨kept, same⟩ := exists_append_toDigits small
  refine ⟨kept, ?_⟩
  simp [NumberText.value, same]

end ToolGateway.Json
