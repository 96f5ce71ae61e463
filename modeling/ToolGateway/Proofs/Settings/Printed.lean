import ToolGateway.Proofs.Settings.Guess

/-!
# Texts that are printed as they were written

A setting that is a string takes a guessed value in its printed form. `asText?_guess_eq_some_iff` says
of which texts this is the text itself: of all but those that have the form of a truth value or of a
number and are not written as such a value is printed (`Rewritten`).
-/

namespace ToolGateway.SettingValue

/-! ## Digits

The digits of a number are printed as they were written, as long as no zero stands in front of them:
each digit that follows others goes to the end of what is printed for those. -/

theorem digitChar_of_isDigit {c : Char} (digit : c.isDigit = true) :
    c.toNat - 0x30 < 10 ∧ (c.toNat - 0x30).digitChar = c := by
  simp only [Char.isDigit, Bool.and_eq_true, decide_eq_true_eq] at digit
  have low : 48 ≤ c.toNat := UInt32.le_iff_toNat_le.mp digit.1
  have high : c.toNat ≤ 57 := UInt32.le_iff_toNat_le.mp digit.2
  refine ⟨by omega, Char.toNat_inj.mp ?_⟩
  rw [Nat.toNat_digitChar_of_lt_ten (by omega)]
  omega

/-- What a number comes to with further digits behind it. -/
def extend (front : Nat) (digits : List Char) : Nat :=
  digits.foldl (fun value c => value * 10 +
    (if c.isDigit then c.toNat - 0x30 else c.toLower.toNat - 0x61 + 10)) front

theorem toDigits_extend {front : Nat} (positive : 0 < front) {digits : List Char}
    (all : ∀ c ∈ digits, c.isDigit = true) :
    Nat.toDigits 10 (extend front digits) = Nat.toDigits 10 front ++ digits := by
  induction digits generalizing front with
  | nil => exact (List.append_nil _).symm
  | cons c rest ih =>
    obtain ⟨digit, others⟩ := List.forall_mem_cons.mp all
    obtain ⟨small, same⟩ := digitChar_of_isDigit digit
    have last := Nat.toDigits_append_toDigits (by decide : 1 < 10) positive small
    rw [Nat.toDigits_of_lt_base small, same] at last
    rw [extend, List.foldl_cons, if_pos digit, Nat.mul_comm]
    rw [← extend, ih (by omega) others, ← last, List.append_assoc, List.singleton_append]

theorem toDigits_digitsValue {c : Char} {rest : List Char} (nonzero : c ≠ '0')
    (all : ∀ d ∈ c :: rest, d.isDigit = true) :
    Nat.toDigits 10 (digitsValue 10 (c :: rest)) = c :: rest := by
  obtain ⟨digit, others⟩ := List.forall_mem_cons.mp all
  obtain ⟨small, same⟩ := digitChar_of_isDigit digit
  have positive : 0 < c.toNat - 0x30 := by
    rw [Nat.pos_iff_ne_zero]
    intro zero
    rw [zero] at same
    exact nonzero same.symm
  have value : digitsValue 10 (c :: rest) = extend (c.toNat - 0x30) rest := by
    rw [digitsValue, extend, List.foldl_cons, if_pos digit, Nat.zero_mul, Nat.zero_add]
  rw [value, toDigits_extend positive others, Nat.toDigits_of_lt_base small, same]
  rfl

/-- Only zero is printed with a zero in front. -/
theorem exists_first_toDigits {n : Nat} (positive : 0 < n) :
    ∃ c rest, Nat.toDigits 10 n = c :: rest ∧ c ≠ '0' ∧ c.isDigit = true := by
  have single : ∀ d < 10, 0 < d → d.digitChar ≠ '0' ∧ d.digitChar.isDigit = true := by decide
  rw [Nat.toDigits_eq_if (by decide)]
  split
  next small => exact ⟨_, _, rfl, single n small positive⟩
  next =>
    obtain ⟨c, rest, same, first⟩ := exists_first_toDigits (n := n / 10) (by omega)
    exact ⟨c, _, by rw [same, List.cons_append], first⟩

/-! ## Whole numbers -/

/-- A whole number is written with something that its printed form does without: a plus sign, a zero in
front of further digits, or a minus sign in front of a zero. -/
inductive Superfluous : List Char → Prop where
  | plus {digits : List Char} : Superfluous ('+' :: digits)
  | zero {d : Char} {digits : List Char} : Superfluous ('0' :: d :: digits)
  | minus {digits : List Char} : Superfluous ('-' :: '0' :: digits)

theorem toList_toString (minus : Bool) (size : Nat) : (toString (signed minus size)).toList =
    if minus = true ∧ 0 < size then '-' :: Nat.toDigits 10 size else Nat.toDigits 10 size := by
  show (Int.repr _).toList = _
  rw [Int.repr_eq_if]
  cases minus with
  | false => simp [signed]
  | true =>
    cases size with
    | zero => simp [signed]
    | succ size =>
      have below : ¬ (0 : Int) ≤ signed true (size + 1) := by
        rw [signed, if_pos rfl]
        omega
      rw [if_neg below, if_pos ⟨rfl, size.succ_pos⟩, String.toList_append, Nat.toList_repr]
      simp [signed]

theorem not_superfluous_toString (minus : Bool) (size : Nat) :
    ¬ Superfluous (toString (signed minus size)).toList := by
  rw [toList_toString]
  rcases Nat.eq_zero_or_pos size with rfl | positive
  · rw [if_neg (fun both => absurd both.2 (by decide))]
    rintro ⟨⟩
  · obtain ⟨c, rest, same, nonzero, digit⟩ := exists_first_toDigits positive
    rw [same]
    split
    · rintro ⟨⟩
      exact nonzero rfl
    · rintro ⟨⟩
      · exact absurd digit (by decide)
      · exact nonzero rfl
      · exact absurd digit (by decide)

/-- A whole number is printed as it was written if nothing that it is written with is superfluous. -/
theorem IntegerText.toString_eq_iff {chars : List Char} {n : Int} (whole : IntegerText chars n) :
    (toString n).toList = chars ↔ ¬ Superfluous chars := by
  cases whole with
  | @mk sign digits minus front numeral =>
    constructor
    · intro same
      rw [← same]
      exact not_superfluous_toString minus _
    · intro needed
      rw [toList_toString]
      obtain ⟨filled, all⟩ := isNumeral_iff.mp numeral
      cases digits with
      | nil => exact absurd rfl filled
      | cons c rest =>
        by_cases zero : c = '0'
        · subst zero
          cases front with
          | none =>
            cases rest with
            | nil => rfl
            | cons d rest => exact absurd .zero needed
          | plus => exact absurd .plus needed
          | minus => exact absurd .minus needed
        · have printed := toDigits_digitsValue zero all
          cases front with
          | none => exact printed
          | plus => exact absurd .plus needed
          | minus =>
            have positive : 0 < digitsValue 10 (c :: rest) := by
              rw [Nat.pos_iff_ne_zero]
              intro none
              rw [none] at printed
              exact zero (List.cons.inj printed).1.symm
            rw [if_pos ⟨rfl, positive⟩, printed]
            rfl

/-! ## All texts -/

/-- A text is one floating-point number at most. -/
theorem FloatText.unique {text : String} {x y : Real64} (one : FloatText text.toList x)
    (other : FloatText text.toList y) : x = y :=
  Option.some.inj ((guessFloat?_eq_some_iff.mpr one).symm.trans (guessFloat?_eq_some_iff.mpr other))

/-- A text has the form of a truth value or of a number, and such a value is printed in another way: the
word for the truth value is written in capitals, in part or as a whole; there is something superfluous
in the whole number; or the floating-point number is not written as the shortest decimal number without
exponent that is it, or by the name that is printed for it. -/
inductive Rewritten (text : String) : Prop where
  | boolean {flag : Bool} (word : BooleanText text flag) (capital : lower text ≠ text)
  | integer {n : Int} (whole : IntegerText text.toList n) (superfluous : Superfluous text.toList)
  | float {x : Real64} (real : FloatText text.toList x) (other : ∀ n, ¬ IntegerText text.toList n)
      (changed : NumberLayout.plain.extendedText x ≠ text)

/-- **A guessed value is printed as the text that it was guessed from** unless such a value is printed in
another way. -/
theorem asText?_guess_eq_some_iff {text : String} :
    asText? (guess text) = some text ↔ ¬ Rewritten text := by
  have form : GuessedAs text (guess text) := guess_eq_iff.mp rfl
  generalize guess text = value at form
  cases form with
  | @boolean flag word =>
    have printed : asText? (.boolean flag) = some (lower text) := by rw [word]; rfl
    rw [printed, Option.some_inj]
    constructor
    · rintro same (⟨_, capital⟩ | ⟨whole, _⟩ | ⟨real, _, _⟩)
      · exact capital same
      · exact word.not_noWordStart whole.head
      · exact word.not_noWordStart real.head
    · intro kept
      exact Decidable.byContradiction fun capital => kept (.boolean word capital)
  | @integer n whole =>
    have printed : asText? (.integer n) = some text ↔ (toString n).toList = text.toList :=
      Option.some_inj.trans String.toList_inj.symm
    rw [printed, whole.toString_eq_iff]
    constructor
    · rintro needed (⟨word, _⟩ | ⟨_, superfluous⟩ | ⟨_, other, _⟩)
      · exact word.not_noWordStart whole.head
      · exact needed superfluous
      · exact other n whole
    · exact fun kept superfluous => kept (.integer whole superfluous)
  | @float x real other =>
    have printed : asText? (.float x) = some text ↔ NumberLayout.plain.extendedText x = text :=
      Option.some_inj
    rw [printed]
    constructor
    · rintro same (⟨word, _⟩ | ⟨whole, _⟩ | ⟨also, _, changed⟩)
      · exact word.not_noWordStart real.head
      · exact other _ whole
      · obtain rfl := real.unique also
        exact changed same
    · intro kept
      exact Decidable.byContradiction fun changed => kept (.float real other changed)
  | string wordless unreal other =>
    refine iff_of_true rfl ?_
    rintro (⟨word, _⟩ | ⟨whole, _⟩ | ⟨real, _, _⟩)
    · exact wordless _ word
    · exact other _ whole
    · exact unreal _ real

end ToolGateway.SettingValue
