import ToolGateway.Settings.Value

/-!
# What a text is guessed to be

A text that is given for a setting is guessed to be a truth value, a whole number, a floating-point
number, or a string. The forms of the first three are laid down here as they are written
(`BooleanText`, `IntegerText`, `FloatText`), and `guess_eq_iff` says that a text is guessed to be what it
has the form of, and a string if it has none of these forms.
-/

namespace ToolGateway.SettingValue

/-! ## Signs and digits -/

/-- The sign in front of a number, and whether it is a minus sign. -/
inductive Sign : List Char → Bool → Prop where
  | none : Sign [] false
  | plus : Sign ['+'] false
  | minus : Sign ['-'] true

/-- A number by its sign and its size. -/
def signed (minus : Bool) (size : Nat) : Int := if minus then -size else size

/-- A text that does not begin with a sign. -/
def Unsigned (text : List Char) : Prop := ∀ c ∈ text.head?, c ≠ '-' ∧ c ≠ '+'

theorem exists_sign (text : List Char) :
    ∃ sign, Sign sign (splitSign text).1 ∧ text = sign ++ (splitSign text).2 := by
  unfold splitSign
  split
  · exact ⟨_, .minus, rfl⟩
  · exact ⟨_, .plus, rfl⟩
  · exact ⟨_, .none, rfl⟩

theorem splitSign_append {sign rest : List Char} {minus : Bool} (signed : Sign sign minus)
    (unsigned : Unsigned rest) : splitSign (sign ++ rest) = (minus, rest) := by
  cases signed with
  | none =>
    unfold splitSign
    split
    next same =>
      obtain rfl : rest = _ := same
      exact absurd rfl (unsigned _ rfl).1
    next same =>
      obtain rfl : rest = _ := same
      exact absurd rfl (unsigned _ rfl).2
    next => rfl
  | plus | minus => rfl

theorem unsigned_of_isDigit {c : Char} (digit : c.isDigit = true) (rest : List Char) :
    Unsigned (c :: rest) := by
  rintro _ ⟨⟩
  constructor
  · rintro rfl
    exact absurd digit (by decide)
  · rintro rfl
    exact absurd digit (by decide)

theorem isNumeral_iff {digits : List Char} :
    isNumeral digits = true ↔ digits ≠ [] ∧ ∀ c ∈ digits, c.isDigit = true := by
  simp [isNumeral]

theorem unsigned_of_isNumeral {digits : List Char} (numeral : isNumeral digits = true) :
    Unsigned digits := by
  obtain ⟨filled, all⟩ := isNumeral_iff.mp numeral
  cases digits with
  | nil => exact absurd rfl filled
  | cons c rest => exact unsigned_of_isDigit (all c List.mem_cons_self) rest

/-! ## Truth values -/

/-- A text is the word for a truth value, in whichever case. -/
def BooleanText (text : String) (flag : Bool) : Prop := lower text = if flag then "true" else "false"

theorem guessBoolean?_eq_some_iff {text : String} {flag : Bool} :
    guessBoolean? text = some flag ↔ BooleanText text flag := by
  unfold guessBoolean? BooleanText
  cases flag <;> split <;> simp_all

/-! ## Whole numbers -/

/-- A text is a whole number of 64 bits: decimal digits with an optional sign. -/
inductive IntegerText : List Char → Int → Prop where
  | mk {sign digits : List Char} {minus : Bool} (front : Sign sign minus)
      (numeral : isNumeral digits = true)
      (held : isInt64 (signed minus (digitsValue 10 digits)) = true) :
      IntegerText (sign ++ digits) (signed minus (digitsValue 10 digits))

theorem guessInteger?_eq_some_iff {text : String} {n : Int} :
    guessInteger? text = some n ↔ IntegerText text.toList n := by
  unfold guessInteger?
  constructor
  · intro guessed
    obtain ⟨sign, front, parts⟩ := exists_sign text.toList
    rw [parts]
    change (if isNumeral (splitSign text.toList).2 = true ∧
        isInt64 (signed (splitSign text.toList).1 (digitsValue 10 (splitSign text.toList).2)) = true
      then some (signed _ _) else none) = some n at guessed
    split at guessed
    next both =>
      obtain rfl := Option.some.inj guessed
      exact .mk front both.1 both.2
    next => cases guessed
  · intro integer
    generalize text.toList = chars at integer
    cases integer with
    | @mk sign digits minus front numeral held =>
      rw [splitSign_append front (unsigned_of_isNumeral numeral)]
      exact if_pos ⟨numeral, held⟩

/-! ## Floating-point numbers -/

/-- A text is a fraction with these digits: nothing, or a point and digits. -/
inductive FractionText : List Char → List Char → Prop where
  | absent : FractionText [] []
  | present {digits : List Char} (all : ∀ c ∈ digits, c.isDigit = true) :
      FractionText ('.' :: digits) digits

/-- A text is an exponent: nothing, or a letter and decimal digits with an optional sign. -/
inductive ExponentText : List Char → Int → Prop where
  | absent : ExponentText [] 0
  | present {mark : Char} {sign digits : List Char} {minus : Bool} (marked : mark = 'e' ∨ mark = 'E')
      (front : Sign sign minus) (numeral : isNumeral digits = true) :
      ExponentText (mark :: (sign ++ digits)) (signed minus (digitsValue 10 digits))

/-- A text is a floating-point number: one of the named ones in whichever case, or decimal digits with
a point among them or around them and an exponent; all with an optional sign. -/
inductive FloatText : List Char → Real64 → Prop where
  | infinite {sign name : List Char} {minus : Bool} (front : Sign sign minus)
      (named : lower (String.ofList name) = "inf" ∨ lower (String.ofList name) = "infinity") :
      FloatText (sign ++ name) (.infinite minus)
  | nan {sign name : List Char} {minus : Bool} (front : Sign sign minus)
      (named : lower (String.ofList name) = "nan") : FloatText (sign ++ name) .nan
  | decimal {sign whole point fraction power : List Char} {minus : Bool} {exponent : Int}
      (front : Sign sign minus) (all : ∀ c ∈ whole, c.isDigit = true)
      (pointed : FractionText point fraction) (filled : whole ≠ [] ∨ fraction ≠ [])
      (raised : ExponentText power exponent) :
      FloatText (sign ++ (whole ++ (point ++ power)))
        (.ofDecimal minus (digitsValue 10 (whole ++ fraction)) (exponent - fraction.length))

theorem guessExponent?_eq_some_iff {text : List Char} {exponent : Int} :
    guessExponent? text = some exponent ↔ ExponentText text exponent := by
  constructor
  · intro guessed
    cases text with
    | nil =>
      obtain rfl := Option.some.inj guessed
      exact .absent
    | cons mark rest =>
      obtain ⟨sign, front, parts⟩ := exists_sign rest
      rw [parts]
      simp only [guessExponent?] at guessed
      split at guessed
      next both =>
        obtain rfl := Option.some.inj guessed
        exact .present both.1 front both.2
      next => cases guessed
  · intro exponent
    cases exponent with
    | absent => rfl
    | present marked front numeral =>
      simp only [guessExponent?, splitSign_append front (unsigned_of_isNumeral numeral)]
      exact if_pos ⟨marked, numeral⟩

/-! The parts of a decimal number follow each other: digits stop before a point or a letter, and the
fraction, whose point may be missing, before a letter. -/

theorem splitDigits_append {digits rest : List Char} (all : ∀ c ∈ digits, c.isDigit = true)
    (ends : ∀ c ∈ rest.head?, c.isDigit = false) : splitDigits (digits ++ rest) = (digits, rest) := by
  have stops : rest.takeWhile Char.isDigit = [] ∧ rest.dropWhile Char.isDigit = rest := by
    cases rest with
    | nil => exact ⟨rfl, rfl⟩
    | cons c rest => simp [ends c rfl]
  simp only [splitDigits, List.takeWhile_append_of_pos all, List.dropWhile_append_of_pos all, stops,
    List.append_nil]

theorem splitDigits_parts (text : List Char) :
    (splitDigits text).1 ++ (splitDigits text).2 = text ∧
      ∀ c ∈ (splitDigits text).1, c.isDigit = true :=
  ⟨List.takeWhile_append_dropWhile, List.all_eq_true.mp List.all_takeWhile⟩

/-- The fraction at the front of a text, and what comes after it. -/
def splitFraction : List Char → List Char × List Char
  | '.' :: rest => splitDigits rest
  | rest => ([], rest)

theorem exists_point (text : List Char) :
    ∃ point, FractionText point (splitFraction text).1 ∧
      text = point ++ (splitFraction text).2 := by
  unfold splitFraction
  split
  next rest =>
    obtain ⟨parts, all⟩ := splitDigits_parts rest
    exact ⟨_, .present all, by rw [List.cons_append, parts]⟩
  next => exact ⟨_, .absent, rfl⟩

theorem ExponentText.head {power : List Char} {exponent : Int} (raised : ExponentText power exponent) :
    ∀ c ∈ power.head?, c.isDigit = false ∧ c ≠ '.' := by
  cases raised with
  | absent => simp
  | present marked =>
    rintro _ ⟨⟩
    rcases marked with rfl | rfl <;> decide

theorem splitFraction_append {point fraction power : List Char} {exponent : Int}
    (pointed : FractionText point fraction) (raised : ExponentText power exponent) :
    splitFraction (point ++ power) = (fraction, power) := by
  cases pointed with
  | absent =>
    unfold splitFraction
    split
    next same =>
      obtain rfl : power = _ := same
      exact absurd rfl (raised.head _ rfl).2
    next => rfl
  | present all => exact splitDigits_append all fun c first => (raised.head c first).1

theorem FractionText.head_not_isDigit {point fraction power : List Char} {exponent : Int}
    (pointed : FractionText point fraction) (raised : ExponentText power exponent) :
    ∀ c ∈ (point ++ power).head?, c.isDigit = false := by
  cases pointed with
  | absent => exact fun c first => (raised.head c first).1
  | present =>
    rintro _ ⟨⟩
    decide

/-- The decimal number that a text without a sign is. -/
def guessDecimal? (minus : Bool) (text : List Char) : Option Real64 :=
  let (whole, rest) := splitDigits text
  let (fraction, rest) := splitFraction rest
  if whole.isEmpty && fraction.isEmpty then none
  else
    (guessExponent? rest).map fun exponent =>
      .ofDecimal minus (digitsValue 10 (whole ++ fraction)) (exponent - fraction.length)

theorem guessFloat?_eq (text : String) : guessFloat? text =
    let (minus, rest) := splitSign text.toList
    let name := lower (String.ofList rest)
    if name = "inf" ∨ name = "infinity" then some (.infinite minus)
    else if name = "nan" then some .nan
    else guessDecimal? minus rest := rfl

theorem guessDecimal?_append {whole point fraction power : List Char} {exponent : Int}
    (minus : Bool) (all : ∀ c ∈ whole, c.isDigit = true) (pointed : FractionText point fraction)
    (filled : whole ≠ [] ∨ fraction ≠ []) (raised : ExponentText power exponent) :
    guessDecimal? minus (whole ++ (point ++ power)) =
      some (.ofDecimal minus (digitsValue 10 (whole ++ fraction)) (exponent - fraction.length)) := by
  have nonempty : ¬ (whole.isEmpty && fraction.isEmpty) = true := by
    simpa [Classical.or_iff_not_imp_left] using filled
  simp only [guessDecimal?, splitDigits_append all (pointed.head_not_isDigit raised),
    splitFraction_append pointed raised, guessExponent?_eq_some_iff.mpr raised]
  exact if_neg nonempty

theorem exists_parts_of_guessDecimal? {minus : Bool} {text : List Char} {x : Real64}
    (guessed : guessDecimal? minus text = some x) :
    ∃ whole point fraction power exponent, text = whole ++ (point ++ power) ∧
      (∀ c ∈ whole, c.isDigit = true) ∧ FractionText point fraction ∧
      (whole ≠ [] ∨ fraction ≠ []) ∧ ExponentText power exponent ∧
      x = .ofDecimal minus (digitsValue 10 (whole ++ fraction)) (exponent - fraction.length) := by
  obtain ⟨parts, all⟩ := splitDigits_parts text
  obtain ⟨point, pointed, parts'⟩ := exists_point (splitDigits text).2
  simp only [guessDecimal?] at guessed
  split at guessed
  next => cases guessed
  next filled =>
    obtain ⟨exponent, raised, rfl⟩ := Option.map_eq_some_iff.mp guessed
    refine ⟨_, point, _, _, exponent, ?_, all, pointed, ?_, guessExponent?_eq_some_iff.mp raised, rfl⟩
    · rw [← parts', parts]
    · simpa [Classical.or_iff_not_imp_left] using filled

/-! A decimal number is not taken for a named one: it begins with a digit or a point. -/

theorem toLower_of_isDigit {c : Char} (digit : c.isDigit = true) : c.toLower = c := by
  refine dif_neg ?_
  rintro ⟨capital, -⟩
  simp only [Char.isDigit, Bool.and_eq_true, decide_eq_true_eq] at digit
  exact absurd (UInt32.le_trans capital digit.2) (by decide)

/-- The first character of a decimal number. -/
theorem head_decimal {whole point fraction : List Char} (power : List Char)
    (all : ∀ c ∈ whole, c.isDigit = true) (pointed : FractionText point fraction)
    (filled : whole ≠ [] ∨ fraction ≠ []) :
    ∃ c rest, whole ++ (point ++ power) = c :: rest ∧ (c.isDigit = true ∨ c = '.') := by
  cases whole with
  | cons c whole => exact ⟨c, _, rfl, .inl (all c List.mem_cons_self)⟩
  | nil =>
    cases pointed with
    | absent => simp at filled
    | present => exact ⟨'.', _, rfl, .inr rfl⟩

theorem lower_decimal {c : Char} (first : c.isDigit = true ∨ c = '.') (rest : List Char) :
    ∃ rest', (lower (String.ofList (c :: rest))).toList = c :: rest' := by
  have same : c.toLower = c := by
    rcases first with digit | rfl
    · exact toLower_of_isDigit digit
    · rfl
  refine ⟨rest.map Char.toLower, ?_⟩
  rw [lower, String.toList_ofList, String.toList_ofList, List.map_cons, same]

theorem lower_decimal_ne {c : Char} (first : c.isDigit = true ∨ c = '.') (rest : List Char)
    {letter : Char} {word : String} {others : List Char} (spelt : word.toList = letter :: others)
    (letters : letter.isDigit = false ∧ letter ≠ '.') : lower (String.ofList (c :: rest)) ≠ word := by
  rintro rfl
  obtain ⟨rest', same⟩ := lower_decimal first rest
  rw [same] at spelt
  obtain ⟨rfl, -⟩ := List.cons.inj spelt
  rcases first with digit | rfl
  · exact absurd digit (by rw [letters.1]; decide)
  · exact letters.2 rfl

theorem unsigned_decimal {c : Char} (first : c.isDigit = true ∨ c = '.') (rest : List Char) :
    Unsigned (c :: rest) := by
  rcases first with digit | rfl
  · exact unsigned_of_isDigit digit rest
  · rintro _ ⟨⟩
    decide

/-- A named number does not begin with a sign. -/
theorem unsigned_named {name : List Char} {word : String} (named : lower (String.ofList name) = word)
    {letter : Char} {others : List Char} (spelt : word.toList = letter :: others)
    (letters : letter ≠ '-' ∧ letter ≠ '+') : Unsigned name := by
  subst named
  rw [lower, String.toList_ofList, String.toList_ofList] at spelt
  rintro c first
  cases name with
  | nil => cases first
  | cons d rest =>
    obtain rfl : d = c := Option.some.inj first
    obtain ⟨same, -⟩ := List.cons.inj spelt
    constructor
    · rintro rfl
      exact letters.1 same.symm
    · rintro rfl
      exact letters.2 same.symm

theorem guessFloat?_eq_some_iff {text : String} {x : Real64} :
    guessFloat? text = some x ↔ FloatText text.toList x := by
  rw [guessFloat?_eq]
  constructor
  · intro guessed
    obtain ⟨sign, front, parts⟩ := exists_sign text.toList
    rw [parts]
    dsimp only at guessed
    split at guessed
    next named =>
      obtain rfl := Option.some.inj guessed
      exact .infinite front named
    split at guessed
    next named =>
      obtain rfl := Option.some.inj guessed
      exact .nan front named
    next =>
      obtain ⟨whole, point, fraction, power, exponent, same, all, pointed, filled, raised, rfl⟩ :=
        exists_parts_of_guessDecimal? guessed
      rw [same]
      exact .decimal front all pointed filled raised
  · intro float
    generalize text.toList = chars at float
    cases float with
    | @infinite sign name minus front named =>
      have unsigned : Unsigned name := by
        rcases named with named | named <;> exact unsigned_named named rfl (by decide)
      simp only [splitSign_append front unsigned]
      exact if_pos named
    | nan front named =>
      simp only [splitSign_append front (unsigned_named named rfl (by decide)), named]
      rfl
    | @decimal sign whole point fraction power minus exponent front all pointed filled raised =>
      obtain ⟨c, rest, same, first⟩ := head_decimal power all pointed filled
      have inf := lower_decimal_ne first rest (rfl : "inf".toList = _) (by decide)
      have infinity := lower_decimal_ne first rest (rfl : "infinity".toList = _) (by decide)
      have nan := lower_decimal_ne first rest (rfl : "nan".toList = _) (by decide)
      have decimal := guessDecimal?_append minus all pointed filled raised
      rw [same] at decimal ⊢
      simp only [splitSign_append front (unsigned_decimal first rest), inf, infinity, nan, or_self,
        if_false]
      exact decimal

/-! ## All texts

No text has the form of a truth value and of a number: the words for truth values begin with letters
with which no number begins. -/

theorem BooleanText.head {text : String} {flag : Bool} (word : BooleanText text flag) :
    ∃ c rest, text.toList = c :: rest ∧ (c.toLower = 't' ∨ c.toLower = 'f') := by
  have spelt : text.toList.map Char.toLower = (if flag then "true" else "false").toList := by
    rw [← word, lower, String.toList_ofList]
  cases same : text.toList with
  | nil =>
    rw [same] at spelt
    cases flag <;> cases spelt
  | cons c rest =>
    rw [same] at spelt
    refine ⟨c, rest, rfl, ?_⟩
    cases flag with
    | true => exact .inl (List.cons.inj spelt).1
    | false => exact .inr (List.cons.inj spelt).1

/-- A character with which a word for a truth value does not begin. -/
def NoWordStart (c : Char) : Prop := c.toLower ≠ 't' ∧ c.toLower ≠ 'f'

theorem noWordStart_of_isDigit {c : Char} (digit : c.isDigit = true) : NoWordStart c := by
  rw [NoWordStart, toLower_of_isDigit digit]
  constructor
  · rintro rfl
    exact absurd digit (by decide)
  · rintro rfl
    exact absurd digit (by decide)

/-- A text with a sign begins with it, and one without as its number does. -/
theorem Sign.head {sign rest : List Char} {minus : Bool} (front : Sign sign minus)
    (first : ∀ c ∈ rest.head?, NoWordStart c) : ∀ c ∈ (sign ++ rest).head?, NoWordStart c := by
  cases front with
  | none => exact first
  | plus | minus =>
    rintro _ ⟨⟩
    exact ⟨by decide, by decide⟩

theorem IntegerText.head {chars : List Char} {n : Int} (whole : IntegerText chars n) :
    ∀ c ∈ chars.head?, NoWordStart c := by
  cases whole with
  | @mk sign digits minus front numeral =>
    refine front.head fun c first => ?_
    exact noWordStart_of_isDigit ((isNumeral_iff.mp numeral).2 c (List.mem_of_mem_head? first))

theorem noWordStart_of_named {name : List Char} {word : String}
    (named : lower (String.ofList name) = word) {letter : Char} {others : List Char}
    (spelt : word.toList = letter :: others) (letters : letter ≠ 't' ∧ letter ≠ 'f') :
    ∀ c ∈ name.head?, NoWordStart c := by
  subst named
  rw [lower, String.toList_ofList, String.toList_ofList] at spelt
  intro c first
  cases name with
  | nil => cases first
  | cons d rest =>
    obtain rfl : d = c := Option.some.inj first
    obtain ⟨same, -⟩ := List.cons.inj spelt
    rw [NoWordStart, same]
    exact letters

theorem FloatText.head {chars : List Char} {x : Real64} (real : FloatText chars x) :
    ∀ c ∈ chars.head?, NoWordStart c := by
  cases real with
  | infinite front named =>
    refine front.head ?_
    rcases named with named | named <;> exact noWordStart_of_named named rfl (by decide)
  | nan front named => exact front.head (noWordStart_of_named named rfl (by decide))
  | decimal front all pointed filled =>
    refine front.head ?_
    obtain ⟨c, rest, same, first⟩ := head_decimal _ all pointed filled
    rw [same]
    rintro _ ⟨⟩
    rcases first with digit | rfl
    · exact noWordStart_of_isDigit digit
    · exact ⟨by decide, by decide⟩

theorem BooleanText.not_noWordStart {text : String} {flag : Bool} (word : BooleanText text flag) :
    ¬ ∀ c ∈ text.toList.head?, NoWordStart c := by
  obtain ⟨c, rest, same, letter⟩ := word.head
  intro none
  rw [same] at none
  obtain ⟨noTrue, noFalse⟩ := none c rfl
  exact letter.elim noTrue noFalse

/-- What a text has the form of; whole numbers of 64 bits are not counted among the floating-point
numbers. -/
inductive GuessedAs (text : String) : SettingValue → Prop where
  | boolean {flag : Bool} (word : BooleanText text flag) : GuessedAs text (.boolean flag)
  | integer {n : Int} (whole : IntegerText text.toList n) : GuessedAs text (.integer n)
  | float {x : Real64} (real : FloatText text.toList x)
      (other : ∀ n, ¬ IntegerText text.toList n) : GuessedAs text (.float x)
  | string (wordless : ∀ flag, ¬ BooleanText text flag) (unreal : ∀ x, ¬ FloatText text.toList x)
      (other : ∀ n, ¬ IntegerText text.toList n) : GuessedAs text (.string text)

/-- **A text is guessed to be what it has the form of.** -/
theorem guess_eq_iff {text : String} {value : SettingValue} :
    guess text = value ↔ GuessedAs text value := by
  have integers : ∀ n, guessInteger? text = some n ↔ IntegerText text.toList n :=
    fun n => guessInteger?_eq_some_iff
  constructor
  · rintro rfl
    unfold guess
    split
    next flag word => exact .boolean (guessBoolean?_eq_some_iff.mp word)
    next wordless =>
    split
    next n whole => exact .integer ((integers n).mp whole)
    next other =>
    have broken : ∀ n, ¬ IntegerText text.toList n := by
      intro n whole
      rw [(integers n).mpr whole] at other
      cases other
    split
    next x real => exact .float (guessFloat?_eq_some_iff.mp real) broken
    next unreal =>
      refine .string ?_ ?_ broken
      · intro flag word
        rw [guessBoolean?_eq_some_iff.mpr word] at wordless
        cases wordless
      · intro x real
        rw [guessFloat?_eq_some_iff.mpr real] at unreal
        cases unreal
  · intro form
    have none : (∀ flag, ¬ BooleanText text flag) → guessBoolean? text = none := fun wordless =>
      Option.eq_none_iff_forall_ne_some.mpr fun flag guessed =>
        wordless flag (guessBoolean?_eq_some_iff.mp guessed)
    have broken : (∀ n, ¬ IntegerText text.toList n) → guessInteger? text = .none := fun other =>
      Option.eq_none_iff_forall_ne_some.mpr fun n guessed => other n ((integers n).mp guessed)
    cases form with
    | boolean word => rw [guess, guessBoolean?_eq_some_iff.mpr word]
    | integer whole =>
      rw [guess, none fun flag word => word.not_noWordStart whole.head, (integers _).mpr whole]
    | float real other =>
      rw [guess, none fun flag word => word.not_noWordStart real.head, broken other,
        guessFloat?_eq_some_iff.mpr real]
    | string wordless unreal other =>
      have noFloat : guessFloat? text = .none := Option.eq_none_iff_forall_ne_some.mpr
        fun x guessed => unreal x (guessFloat?_eq_some_iff.mp guessed)
      rw [guess, none wordless, broken other, noFloat]

end ToolGateway.SettingValue
