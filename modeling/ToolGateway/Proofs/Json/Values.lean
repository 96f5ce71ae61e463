import ToolGateway.Proofs.Json.Strings

/-!
# How values are read

The reader of values is one function with many branches, and it is unfolded here and nowhere else.
There is one fact for each byte that a value can begin with, and one for the items of an array and
the entries of an object; each says when the reader succeeds, with what, and what it leaves.
-/

namespace ToolGateway.Json

open Grammar

/-! ## Blanks -/

theorem blanks_skipBlanks (text : List UInt8) : Blanks text (skipBlanks text) := by
  refine ⟨text.takeWhile isBlank, ?_, List.takeWhile_append_dropWhile.symm⟩
  intro b member
  exact List.all_eq_true.mp List.all_takeWhile b member

theorem skipBlanks_of_blanks {text rest : List UInt8} (blanks : Blanks text rest) :
    skipBlanks text = skipBlanks rest := by
  obtain ⟨front, all, rfl⟩ := blanks
  exact List.dropWhile_append_of_pos all

theorem skipBlanks_cons {b : UInt8} (solid : isBlank b = false) (rest : List UInt8) :
    skipBlanks (b :: rest) = b :: rest :=
  List.dropWhile_cons_of_neg (by simp [solid])

theorem length_lt_of_skipBlanks {text rest : List UInt8} {b : UInt8}
    (found : skipBlanks text = b :: rest) : rest.length < text.length := by
  have := length_skipBlanks_le text
  simp only [found, List.length_cons] at this
  omega

theorem Grammar.Blanks.none (text : List UInt8) : Blanks text text :=
  ⟨[], by simp, rfl⟩

theorem Grammar.Blanks.trans {text middle rest : List UInt8} (first : Blanks text middle)
    (second : Blanks middle rest) : Blanks text rest := by
  obtain ⟨front, all, rfl⟩ := first
  obtain ⟨back, others, rfl⟩ := second
  refine ⟨front ++ back, ?_, (List.append_assoc _ _ _).symm⟩
  intro b member
  rcases List.mem_append.mp member with member | member
  · exact all b member
  · exact others b member

/-- Blanks before a byte that is none are all that is skipped. -/
theorem skipBlanks_eq_cons_iff {b : UInt8} (solid : isBlank b = false) {text rest : List UInt8} :
    skipBlanks text = b :: rest ↔ Blanks text (b :: rest) := by
  constructor
  · intro same
    rw [← same]
    exact blanks_skipBlanks text
  · intro blanks
    rw [skipBlanks_of_blanks blanks, skipBlanks_cons solid]

theorem skipBlanks_eq_nil_iff {text : List UInt8} : skipBlanks text = [] ↔ Blanks text [] := by
  constructor
  · intro same
    rw [← same]
    exact blanks_skipBlanks text
  · intro blanks
    rw [skipBlanks_of_blanks blanks]
    rfl

/-! ## Words and numbers -/

theorem readWord_eq_ok_iff {letters text rest : List UInt8} :
    readWord letters text = .ok rest ↔ text = letters ++ rest := by
  induction letters generalizing text with
  | nil => simp [readWord]
  | cons letter letters ih =>
    cases text with
    | nil => simp [readWord]
    | cons b text =>
      by_cases same : b = letter
      · simp [readWord, same, ih]
      · simp [readWord, same]

theorem reads_readConstant_iff {letters text rest : List UInt8} {constant value : Json} :
    Reads (readConstant letters constant text) value rest ↔
      text = letters ++ rest ∧ value = constant := by
  rw [← readWord_eq_ok_iff, readConstant]
  split
  next error failed => simp [failed]
  next left found => simp [found, eq_comm, and_comm]

theorem reads_readNumber_iff {negative : Bool} {text rest : List UInt8} {value : Json} :
    Reads (readNumber negative text) value rest ↔
      ∃ written number, Numeral text written rest ∧ written.value negative = .ok number ∧
        value = .number number := by
  simp only [← readNumberText_eq_ok_iff]
  rw [readNumber]
  split
  next error failed => simp [failed]
  next written left found =>
    split
    next number valued =>
      rw [reads_ok_iff]
      constructor
      · rintro ⟨rfl, rfl⟩
        exact ⟨written, number, found, valued, rfl⟩
      · rintro ⟨_, _, same, other, rfl⟩
        rw [found] at same
        obtain ⟨rfl, rfl⟩ := Prod.mk.inj (Except.ok.inj same)
        rw [valued] at other
        exact ⟨congrArg Json.number (Except.ok.inj other), rfl⟩
    next unread large =>
      refine iff_of_false (not_reads_error _ _ _) ?_
      rintro ⟨_, _, same, other, rfl⟩
      rw [found] at same
      obtain ⟨rfl, rfl⟩ := Prod.mk.inj (Except.ok.inj same)
      rw [large] at other
      cases other

theorem reads_widen_iff {α : Type} {small large : Nat} {result : Except ReadError (Parsed α small)}
    (fits : small ≤ large) {value : α} {rest : List UInt8} :
    Reads ((·.widen fits) <$> result) value rest ↔ Reads result value rest := by
  cases result with
  | error error =>
    exact iff_of_false (not_reads_error _ _ _) (not_reads_error _ _ _)
  | ok parsed =>
    show Reads (.ok (parsed.widen fits)) value rest ↔ _
    rw [reads_ok_iff, reads_ok_iff]
    rfl

/-! ## Names and values -/

theorem reads_readName_iff {text rest : List UInt8} {name : String} :
    Reads (readName text) name rest ↔ ∃ content after, Characters text content after ∧
      Blanks after (0x3A :: rest) ∧ name = String.ofList content := by
  rw [readName, reads_bind_iff]
  constructor
  · rintro ⟨first, found, read⟩
    obtain ⟨-, content, characters, same⟩ := reads_readString_iff.mp ⟨first.shorter, found⟩
    split at read
    · exact absurd read (not_reads_error _ _ _)
    next b after colon =>
      split at read
      next isColon =>
        obtain ⟨rfl, rfl⟩ := reads_ok_iff.mp read
        rw [isColon] at colon
        exact ⟨content, _, characters, (skipBlanks_eq_cons_iff (by decide)).mp colon, same⟩
      next => exact absurd read (not_reads_error _ _ _)
  · rintro ⟨content, after, characters, colon, rfl⟩
    obtain ⟨_, found⟩ := reads_readString_iff.mpr
      (show _ ∧ _ from ⟨rfl, content, characters, rfl⟩)
    have colon := (skipBlanks_eq_cons_iff (by decide)).mpr colon
    refine ⟨_, found, ?_⟩
    split
    next cut =>
      rw [colon] at cut
      cases cut
    next b left found =>
      rw [colon] at found
      obtain ⟨rfl, rfl⟩ := List.cons.inj found
      rw [if_pos rfl, reads_ok_iff]
      exact ⟨rfl, rfl⟩

theorem isBlank_of_isDigit {b : UInt8} (digit : isDigit b = true) : isBlank b = false := by
  simp only [isDigit, Bool.and_eq_true, decide_eq_true_eq, UInt8.le_iff_toNat_le,
    UInt8.reduceToNat] at digit
  simp only [isBlank, Bool.or_eq_false_iff, beq_eq_false_iff_ne, ne_eq, ← UInt8.toNat_inj,
    UInt8.reduceToNat]
  omega

theorem ne_of_isDigit {b : UInt8} (digit : isDigit b = true) {other : UInt8}
    (none : isDigit other = false) : b ≠ other := by
  rintro rfl
  rw [digit] at none
  cases none

/-! ## Values, items and entries -/

section

variable {depth bound : Nat} {text after rest : List UInt8} {value : Json}

theorem reads_string_iff (found : skipBlanks text = 0x22 :: after) :
    Reads (readValue depth text) value rest ↔
      ∃ content, Characters after content rest ∧ value = .string (String.ofList content) := by
  rw [readValue]
  split
  next cut =>
    rw [found] at cut
    cases cut
  next b others same =>
    obtain ⟨rfl, rfl⟩ := List.cons.inj (found.symm.trans same)
    rw [if_pos rfl, reads_bind_iff]
    constructor
    · rintro ⟨string, opened, done⟩
      obtain ⟨-, content, characters, same⟩ := reads_readString_iff.mp ⟨string.shorter, opened⟩
      obtain ⟨rfl, rfl⟩ := reads_ok_iff.mp done
      exact ⟨content, characters, congrArg Json.string same⟩
    · rintro ⟨content, characters, rfl⟩
      obtain ⟨_, read⟩ := reads_readString_iff.mpr (show _ ∧ _ from ⟨rfl, _, characters, rfl⟩)
      exact ⟨_, read, reads_ok_iff.mpr ⟨rfl, rfl⟩⟩

theorem reads_negative_iff (found : skipBlanks text = 0x2D :: after) :
    Reads (readValue depth text) value rest ↔ ∃ written number, Numeral after written rest ∧
      written.value true = .ok number ∧ value = .number number := by
  rw [readValue]
  split
  next cut =>
    rw [found] at cut
    cases cut
  next b others same =>
    obtain ⟨rfl, rfl⟩ := List.cons.inj (found.symm.trans same)
    simp +decide only [reduceIte]
    rw [reads_widen_iff, reads_readNumber_iff]

theorem reads_positive_iff {b : UInt8} (found : skipBlanks text = b :: after)
    (digit : isDigit b = true) :
    Reads (readValue depth text) value rest ↔ ∃ written number, Numeral (b :: after) written rest ∧
      written.value false = .ok number ∧ value = .number number := by
  rw [readValue]
  split
  next cut =>
    rw [found] at cut
    cases cut
  next c others same =>
    obtain ⟨rfl, rfl⟩ := List.cons.inj (found.symm.trans same)
    rw [if_neg (ne_of_isDigit digit rfl), if_neg (ne_of_isDigit digit rfl), if_pos digit,
      reads_widen_iff, reads_readNumber_iff]

theorem reads_word_iff {letter : UInt8} {letters : List UInt8} {constant : Json}
    (known : (letter, letters, constant) ∈ words) (found : skipBlanks text = letter :: after) :
    Reads (readValue depth text) value rest ↔ after = letters ++ rest ∧ value = constant := by
  rw [readValue]
  split
  next cut =>
    rw [found] at cut
    cases cut
  next b others same =>
    obtain ⟨rfl, rfl⟩ := List.cons.inj (found.symm.trans same)
    simp only [words, List.mem_cons, List.not_mem_nil, or_false, Prod.mk.injEq] at known
    rcases known with ⟨rfl, rfl, rfl⟩ | ⟨rfl, rfl, rfl⟩ | ⟨rfl, rfl, rfl⟩
    all_goals
      simp +decide only [reduceIte]
      rw [reads_widen_iff, reads_readConstant_iff]

theorem reads_array_iff (found : skipBlanks text = 0x5B :: after) :
    Reads (readValue (depth + 1) text) value rest ↔
      (skipBlanks after = 0x5D :: rest ∧ value = .array []) ∨
        ∃ c inner fits, skipBlanks after = c :: inner ∧ c ≠ 0x5D ∧
          Reads (readItems depth text.length (c :: inner) fits []) value rest := by
  rw [readValue]
  split
  next cut =>
    rw [found] at cut
    cases cut
  next b others same =>
    obtain ⟨rfl, rfl⟩ := List.cons.inj (found.symm.trans same)
    simp +decide only [reduceIte]
    split
    next cut => simp [cut]
    next c inner start =>
      by_cases close : c = 0x5D
      · simp [start, close, eq_comm, and_comm]
      · rw [if_neg close]
        constructor
        · intro read
          exact .inr ⟨c, inner, _, start, close, read⟩
        · rintro (⟨other, -⟩ | ⟨_, _, _, other, -, read⟩)
          · rw [start] at other
            exact absurd (List.cons.inj other).1 close
          · obtain ⟨rfl, rfl⟩ := List.cons.inj (start.symm.trans other)
            exact read

theorem reads_object_iff (found : skipBlanks text = 0x7B :: after) :
    Reads (readValue (depth + 1) text) value rest ↔
      (skipBlanks after = 0x7D :: rest ∧ value = .object []) ∨
        ∃ inner fits, skipBlanks after = 0x22 :: inner ∧
          Reads (readMembers depth text.length inner fits []) value rest := by
  rw [readValue]
  split
  next cut =>
    rw [found] at cut
    cases cut
  next b others same =>
    obtain ⟨rfl, rfl⟩ := List.cons.inj (found.symm.trans same)
    simp +decide only [reduceIte]
    split
    next cut => simp [cut]
    next c inner start =>
      by_cases close : c = 0x7D
      · simp [start, close, eq_comm, and_comm]
      · rw [if_neg close]
        by_cases quote : c = 0x22
        · rw [if_pos quote]
          constructor
          · intro read
            exact .inr ⟨inner, _, by rw [start, quote], read⟩
          · rintro (⟨other, -⟩ | ⟨_, _, other, read⟩)
            · rw [start] at other
              exact absurd (List.cons.inj other).1 close
            · obtain ⟨-, rfl⟩ := List.cons.inj (start.symm.trans other)
              exact read
        · simp [start, close, quote]

/-- Something begins every value; brackets and braces do so only where they may be nested. -/
theorem exists_first_of_reads (read : Reads (readValue depth text) value rest) :
    ∃ b after, skipBlanks text = b :: after ∧ (b = 0x22 ∨ b = 0x2D ∨ isDigit b = true ∨
      (∃ letters constant, (b, letters, constant) ∈ words) ∨
        ∃ inner, depth = inner + 1 ∧ (b = 0x5B ∨ b = 0x7B)) := by
  rw [readValue] at read
  split at read
  · exact absurd read (not_reads_error _ _ _)
  next b after found =>
    refine ⟨b, after, found, ?_⟩
    by_cases quote : b = 0x22
    · exact .inl quote
    by_cases minus : b = 0x2D
    · exact .inr (.inl minus)
    by_cases digit : isDigit b = true
    · exact .inr (.inr (.inl digit))
    by_cases word : ∃ letters constant, (b, letters, constant) ∈ words
    · exact .inr (.inr (.inr (.inl word)))
    have n : b ≠ 0x6E := fun n => word ⟨_, _, by rw [n]; exact List.mem_cons_self⟩
    have t : b ≠ 0x74 := fun t => word ⟨_, _, by rw [t]; exact .tail _ List.mem_cons_self⟩
    have f : b ≠ 0x66 := fun f => word ⟨_, _, by rw [f]; exact .tail _ (.tail _ List.mem_cons_self)⟩
    rw [if_neg quote, if_neg minus, if_neg digit, if_neg n, if_neg t, if_neg f] at read
    refine .inr (.inr (.inr (.inr ?_)))
    cases depth with
    | zero =>
      by_cases bracket : b = 0x5B
      · rw [if_pos bracket] at read
        exact absurd read (not_reads_error _ _ _)
      · rw [if_neg bracket] at read
        by_cases brace : b = 0x7B
        · rw [if_pos brace] at read
          exact absurd read (not_reads_error _ _ _)
        · rw [if_neg brace] at read
          exact absurd read (not_reads_error _ _ _)
    | succ inner =>
      refine ⟨inner, rfl, ?_⟩
      by_cases bracket : b = 0x5B
      · exact .inl bracket
      by_cases brace : b = 0x7B
      · exact .inr brace
      rw [if_neg bracket, if_neg brace] at read
      exact absurd read (not_reads_error _ _ _)

theorem reads_readItems_iff {fits : text.length < bound} {done : List Json} :
    Reads (readItems depth bound text fits done) value rest ↔
      ∃ item left, Reads (readValue depth text) item left ∧
        ((skipBlanks left = 0x5D :: rest ∧ value = .array (item :: done).reverse) ∨
          ∃ next c inner fits, skipBlanks left = 0x2C :: next ∧ skipBlanks next = c :: inner ∧
            c ≠ 0x5D ∧
              Reads (readItems depth bound (c :: inner) fits (item :: done)) value rest) := by
  rw [readItems]
  constructor
  · intro read
    split at read
    · exact absurd read (not_reads_error _ _ _)
    next item found =>
      refine ⟨item.value, item.rest, ⟨item.shorter, found⟩, ?_⟩
      dsimp only at read
      split at read
      · exact absurd read (not_reads_error _ _ _)
      next b next start =>
        split at read
        next close =>
          obtain ⟨rfl, rfl⟩ := reads_ok_iff.mp read
          rw [close] at start
          exact .inl ⟨start, rfl⟩
        split at read
        next comma =>
          rw [comma] at start
          split at read
          · exact absurd read (not_reads_error _ _ _)
          next c inner opened =>
            split at read
            · exact absurd read (not_reads_error _ _ _)
            next filled => exact .inr ⟨next, c, inner, _, start, opened, filled, read⟩
        next => exact absurd read (not_reads_error _ _ _)
  · rintro ⟨item, left, ⟨_, found⟩, ended⟩
    split
    next error failed =>
      rw [found] at failed
      cases failed
    next parsed read =>
      obtain rfl := Except.ok.inj (found.symm.trans read)
      dsimp only
      split
      next cut =>
        rcases ended with ⟨close, -⟩ | ⟨next, c, inner, _, comma, -⟩
        · rw [close] at cut
          cases cut
        · rw [comma] at cut
          cases cut
      next b after start =>
        rcases ended with ⟨close, rfl⟩ | ⟨next, c, inner, _, comma, opened, filled, read⟩
        · obtain ⟨rfl, rfl⟩ := List.cons.inj (close.symm.trans start)
          rw [if_pos rfl, reads_ok_iff]
          exact ⟨rfl, rfl⟩
        · obtain ⟨rfl, rfl⟩ := List.cons.inj (comma.symm.trans start)
          simp +decide only [reduceIte]
          split
          next cut =>
            rw [opened] at cut
            cases cut
          next d within same =>
            obtain ⟨rfl, rfl⟩ := List.cons.inj (opened.symm.trans same)
            rw [if_neg filled]
            exact read

theorem reads_readMembers_iff {fits : text.length < bound} {done : Json.Object} :
    Reads (readMembers depth bound text fits done) value rest ↔
      ∃ name named item left, Reads (readName text) name named ∧
        Reads (readValue depth named) item left ∧
        ((skipBlanks left = 0x7D :: rest ∧ value = .object (Members.put done name item)) ∨
          ∃ next inner fits, skipBlanks left = 0x2C :: next ∧ skipBlanks next = 0x22 :: inner ∧
            Reads (readMembers depth bound inner fits (Members.put done name item)) value rest) := by
  rw [readMembers]
  constructor
  · intro read
    split at read
    · exact absurd read (not_reads_error _ _ _)
    next name called =>
      dsimp only at read
      split at read
      · exact absurd read (not_reads_error _ _ _)
      next item found =>
        refine ⟨name.value, name.rest, item.value, item.rest, ⟨name.shorter, called⟩,
          ⟨item.shorter, found⟩, ?_⟩
        split at read
        · exact absurd read (not_reads_error _ _ _)
        next b next start =>
          split at read
          next close =>
            obtain ⟨rfl, rfl⟩ := reads_ok_iff.mp read
            rw [close] at start
            exact .inl ⟨start, rfl⟩
          split at read
          next comma =>
            rw [comma] at start
            split at read
            · exact absurd read (not_reads_error _ _ _)
            next c inner opened =>
              split at read
              next quote =>
                rw [quote] at opened
                exact .inr ⟨next, inner, _, start, opened, read⟩
              split at read
              · exact absurd read (not_reads_error _ _ _)
              · exact absurd read (not_reads_error _ _ _)
          next => exact absurd read (not_reads_error _ _ _)
  · rintro ⟨name, named, item, left, ⟨_, called⟩, ⟨_, found⟩, ended⟩
    split
    next error failed =>
      rw [called] at failed
      cases failed
    next parsedName read =>
      obtain rfl := Except.ok.inj (called.symm.trans read)
      dsimp only
      split
      next error failed =>
        rw [found] at failed
        cases failed
      next parsed read =>
        obtain rfl := Except.ok.inj (found.symm.trans read)
        dsimp only
        split
        next cut =>
          rcases ended with ⟨close, -⟩ | ⟨next, inner, _, comma, -⟩
          · rw [close] at cut
            cases cut
          · rw [comma] at cut
            cases cut
        next b after start =>
          rcases ended with ⟨close, rfl⟩ | ⟨next, inner, _, comma, opened, read⟩
          · obtain ⟨rfl, rfl⟩ := List.cons.inj (close.symm.trans start)
            rw [if_pos rfl, reads_ok_iff]
            exact ⟨rfl, rfl⟩
          · obtain ⟨rfl, rfl⟩ := List.cons.inj (comma.symm.trans start)
            simp +decide only [reduceIte]
            split
            next cut =>
              rw [opened] at cut
              cases cut
            next d within same =>
              obtain ⟨rfl, rfl⟩ := List.cons.inj (opened.symm.trans same)
              rw [if_pos rfl]
              exact read

end

/-! ## First bytes -/

theorem isBlank_of_mem_words {letter : UInt8} {letters : List UInt8} {constant : Json}
    (known : (letter, letters, constant) ∈ words) : isBlank letter = false ∧ letter ≠ 0x5D := by
  simp only [words, List.mem_cons, List.not_mem_nil, or_false, Prod.mk.injEq] at known
  rcases known with ⟨rfl, rfl, rfl⟩ | ⟨rfl, rfl, rfl⟩ | ⟨rfl, rfl, rfl⟩ <;> exact ⟨rfl, by decide⟩

/-- A number begins with a digit. -/
theorem Grammar.Numeral.exists_first {text rest : List UInt8} {written : NumberText}
    (numeral : Numeral text written rest) : ∃ d after, text = d :: after ∧ isDigit d = true := by
  obtain ⟨before, -, -⟩ := numeral
  cases before with
  | zero => exact ⟨_, _, rfl, by decide⟩
  | other first => exact ⟨_, _, rfl, first⟩

/-- A value begins neither with a blank nor with the bracket that closes an array. -/
theorem Grammar.Value.exists_first {depth : Nat} {text rest : List UInt8} {value : Json}
    (derived : Value depth text value rest) :
    ∃ b after, text = b :: after ∧ isBlank b = false ∧ b ≠ 0x5D := by
  cases derived with
  | positive numeral =>
    obtain ⟨d, after, same, digit⟩ := numeral.exists_first
    exact ⟨d, after, same, isBlank_of_isDigit digit, ne_of_isDigit digit (by decide)⟩
  | word known => exact ⟨_, _, rfl, isBlank_of_mem_words known⟩
  | _ => exact ⟨_, _, rfl, by decide, by decide⟩

theorem Grammar.Items.exists_first {depth : Nat} {text rest : List UInt8} {items : List Json}
    (derived : Items depth text items rest) :
    ∃ b after, text = b :: after ∧ isBlank b = false ∧ b ≠ 0x5D := by
  cases derived with
  | last value => exact value.exists_first
  | more value => exact value.exists_first

theorem Grammar.Entries.exists_first {depth : Nat} {text rest : List UInt8}
    {entries : List (String × Json)} (derived : Entries depth text entries rest) :
    ∃ after, text = 0x22 :: after := by
  cases derived with
  | last first =>
    cases first
    exact ⟨_, rfl⟩
  | more first =>
    cases first
    exact ⟨_, rfl⟩

end ToolGateway.Json
