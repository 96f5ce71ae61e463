import ToolGateway.Proofs.Settings.Guess

/-!
# Values that stand for natural numbers

A setting that is a natural number takes values of other types too: a truth value, the nearest number to
a floating-point one, and a text that says a number or answers yes or no. `StandsForNatural` lays this
down, and `asNatural?_eq_some_iff` says that a value is read as the number it stands for, and as none if
it stands for none.
-/

namespace ToolGateway

/-! ## Floating-point numbers -/

/-- Whether the magnitude of a number is at most a half below a natural number, or above it. -/
def Binary64.Reaches (x : Binary64) (n : Nat) : Prop :=
  2 * n * stepsPerOne ≤ 2 * x.steps + stepsPerOne

theorem Binary64.reaches_iff {x : Binary64} {n : Nat} : x.Reaches n ↔ n ≤ x.roundAwayToNat := by
  have positive : 0 < 2 * stepsPerOne := Nat.mul_pos (by decide) (twoTo_pos _)
  rw [roundAwayToNat, Nat.le_div_iff_mul_le positive, Nat.mul_left_comm, ← Nat.mul_assoc, Reaches]

namespace SettingValue

/-- The natural number of 64 bits that is nearest to a floating-point number, a half counting up: zero
for what lies below, and the largest one for what lies beyond. What is no number counts as zero. -/
inductive Nearest : Real64 → Nat → Prop where
  | within {x : Binary64} {n : Nat} (positive : x.negative = false) (held : n < largestNatural)
      (reached : x.Reaches n) (missed : ¬ x.Reaches (n + 1)) : Nearest (.finite x) n
  | beyond {x : Binary64} (positive : x.negative = false) (reached : x.Reaches largestNatural) :
      Nearest (.finite x) largestNatural
  | below {x : Binary64} (negative : x.negative = true) : Nearest (.finite x) 0
  | endless : Nearest (.infinite false) largestNatural
  | bottomless : Nearest (.infinite true) 0
  | nan : Nearest .nan 0

theorem nearest_roundToNatural (x : Real64) : Nearest x (roundToNatural x) := by
  cases x with
  | finite x =>
    rw [roundToNatural]
    split
    next negative => exact .below negative
    next positive =>
      rw [Bool.not_eq_true] at positive
      rcases Nat.lt_or_ge x.roundAwayToNat largestNatural with held | large
      · rw [Nat.min_eq_left (Nat.le_of_lt held)]
        refine .within positive held (Binary64.reaches_iff.mpr (Nat.le_refl _)) ?_
        rw [Binary64.reaches_iff]
        exact Nat.not_succ_le_self _
      · rw [Nat.min_eq_right large]
        exact .beyond positive (Binary64.reaches_iff.mpr large)
  | infinite negative =>
    cases negative with
    | true => exact .bottomless
    | false => exact .endless
  | nan => exact .nan

theorem roundToNatural_eq_iff {x : Real64} {n : Nat} : roundToNatural x = n ↔ Nearest x n := by
  constructor
  · rintro rfl
    exact nearest_roundToNatural x
  · intro nearest
    cases nearest with
    | within positive held reached missed =>
      rw [Binary64.reaches_iff] at reached missed
      rw [roundToNatural, positive, if_neg Bool.false_ne_true]
      omega
    | beyond positive reached =>
      rw [roundToNatural, positive, if_neg Bool.false_ne_true]
      exact Nat.min_eq_right (Binary64.reaches_iff.mp reached)
    | below negative => exact if_pos negative
    | endless | bottomless | nan => rfl

/-! ## Texts -/

/-- A text that says a natural number of 64 bits: a word for yes or no in whichever case, or decimal
digits with or without a plus sign. -/
inductive NaturalText (text : String) : Nat → Prop where
  | yes (word : lower text ∈ ["true", "on", "yes"]) : NaturalText text 1
  | no (word : lower text ∈ ["false", "off", "no"]) : NaturalText text 0
  | numeral {sign digits : List Char} (front : Sign sign false) (numeral : isNumeral digits = true)
      (parts : text.toList = sign ++ digits) (held : digitsValue 10 digits ≤ largestNatural) :
      NaturalText text (digitsValue 10 digits)

/-- What comes after a plus sign, which may be missing. -/
def withoutPlus : List Char → List Char
  | '+' :: rest => rest
  | text => text

theorem exists_plus (text : List Char) : ∃ sign, Sign sign false ∧ text = sign ++ withoutPlus text := by
  unfold withoutPlus
  split
  · exact ⟨_, .plus, rfl⟩
  · exact ⟨_, .none, rfl⟩

theorem withoutPlus_append {sign rest : List Char} (front : Sign sign false)
    (unsigned : Unsigned rest) : withoutPlus (sign ++ rest) = rest := by
  cases front with
  | plus => rfl
  | none =>
    unfold withoutPlus
    split
    next same =>
      obtain rfl : rest = _ := same
      exact absurd rfl (unsigned _ rfl).2
    next => rfl

theorem textAsNatural?_eq (text : String) : textAsNatural? text =
    if ["true", "on", "yes"].contains (lower text) then some 1
    else if ["false", "off", "no"].contains (lower text) then some 0
    else if isNumeral (withoutPlus text.toList) ∧
        digitsValue 10 (withoutPlus text.toList) ≤ largestNatural then
      some (digitsValue 10 (withoutPlus text.toList))
    else none := rfl

/-- The first character of a number with or without a plus sign. -/
theorem head_numeral {sign digits : List Char} (front : Sign sign false)
    (numeral : isNumeral digits = true) :
    ∃ c rest, sign ++ digits = c :: rest ∧ (c.isDigit = true ∨ c = '+') := by
  obtain ⟨filled, all⟩ := isNumeral_iff.mp numeral
  cases front with
  | plus => exact ⟨_, _, rfl, .inr rfl⟩
  | none =>
    cases digits with
    | nil => exact absurd rfl filled
    | cons c rest => exact ⟨c, rest, rfl, .inl (all c List.mem_cons_self)⟩

/-- A number is no word for yes or no: none of these begins with a digit or a plus sign. -/
theorem lower_numeral_not_mem {text : String} {sign digits : List Char} (front : Sign sign false)
    (numeral : isNumeral digits = true) (parts : text.toList = sign ++ digits) :
    lower text ∉ ["true", "on", "yes"] ++ ["false", "off", "no"] := by
  obtain ⟨c, rest, begins, first⟩ := head_numeral front numeral
  have same : c.toLower = c := by
    rcases first with digit | rfl
    · exact toLower_of_isDigit digit
    · rfl
  have starts : (lower text).toList.head? = some c := by
    rw [lower, String.toList_ofList, parts, begins, List.map_cons, List.head?_cons, same]
  have letters : ∀ word ∈ ["true", "on", "yes"] ++ ["false", "off", "no"],
      word.toList.head?.all (fun c => !(c.isDigit || c == '+')) = true := by decide
  intro word
  have other := letters _ word
  rw [starts, Option.all_some, Bool.not_eq_true', Bool.or_eq_false_iff] at other
  rcases first with digit | rfl
  · exact absurd digit (by rw [other.1]; decide)
  · exact absurd other.2 (by decide)

theorem textAsNatural?_eq_some_iff {text : String} {n : Nat} :
    textAsNatural? text = some n ↔ NaturalText text n := by
  rw [textAsNatural?_eq]
  simp only [List.contains_iff_mem]
  constructor
  · intro read
    split at read
    next word =>
      obtain rfl := Option.some.inj read
      exact .yes word
    split at read
    next word =>
      obtain rfl := Option.some.inj read
      exact .no word
    split at read
    next both =>
      obtain ⟨sign, front, parts⟩ := exists_plus text.toList
      obtain rfl := Option.some.inj read
      exact .numeral front both.1 parts both.2
    next => cases read
  · intro said
    cases said with
    | yes word => exact if_pos word
    | no word =>
      have other : ∀ word ∈ ["false", "off", "no"], word ∉ ["true", "on", "yes"] := by decide
      rw [if_neg (other _ word), if_pos word]
    | numeral front numeral parts held =>
      have wordless := lower_numeral_not_mem front numeral parts
      rw [List.mem_append, not_or] at wordless
      rw [if_neg wordless.1, if_neg wordless.2, parts,
        withoutPlus_append front (unsigned_of_isNumeral numeral), if_pos ⟨numeral, held⟩]

/-! ## All values -/

/-- The natural number of 64 bits that a value stands for. -/
inductive StandsForNatural : SettingValue → Nat → Prop where
  | integer (n : Nat) : StandsForNatural (.integer n) n
  | float {x : Real64} {n : Nat} (nearest : Nearest x n) : StandsForNatural (.float x) n
  | yes : StandsForNatural (.boolean true) 1
  | no : StandsForNatural (.boolean false) 0
  | string {text : String} {n : Nat} (said : NaturalText text n) : StandsForNatural (.string text) n

/-- **A value is read as the natural number it stands for**, and as none if it stands for none. -/
theorem asNatural?_eq_some_iff {value : SettingValue} {n : Nat} :
    value.asNatural? = some n ↔ StandsForNatural value n := by
  constructor
  · intro read
    cases value with
    | integer value =>
      rw [asNatural?] at read
      split at read
      next positive =>
        obtain rfl := Option.some.inj read
        obtain ⟨n, rfl⟩ := Int.eq_ofNat_of_zero_le positive
        exact .integer n
      next => cases read
    | float x =>
      obtain rfl := Option.some.inj read
      exact .float (nearest_roundToNatural x)
    | boolean flag =>
      obtain rfl := Option.some.inj read
      cases flag with
      | true => exact .yes
      | false => exact .no
    | string text => exact .string (textAsNatural?_eq_some_iff.mp read)
    | unset | array | table => cases read
  · intro stands
    cases stands with
    | integer n => simp [asNatural?]
    | float nearest => exact congrArg some (roundToNatural_eq_iff.mpr nearest)
    | yes | no => rfl
    | string said => exact textAsNatural?_eq_some_iff.mpr said

end SettingValue

end ToolGateway
