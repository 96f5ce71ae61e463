import ToolGateway.Proofs.Json.Digits
import ToolGateway.Proofs.Json.Reading

/-!
# Where a value begins and ends

A value begins and ends with a byte above the space: a letter, a digit, a sign, a quote or a bracket.
So in a JSON text whatever stands in front of the value and behind it is found by looking at the bytes
alone (`exists_core_of_isText`), and nothing but blanks stands there. The other way round, blanks put
around a JSON text make no difference (`IsText.padded`).

The end is read off the grammar, where every relation names the text that is left. `EndsBefore` says
that a text comes to an end there and with which kind of byte; it is carried along the derivation, and
only the last part of a value has to be looked at. What is put behind a text is carried along in the
same way, as part of what is left; only a number has to be told where it ends.
-/

namespace ToolGateway.Json

open Grammar

/-- A text ends where `rest` begins, and the byte before that is above the space. -/
def EndsBefore (text rest : List UInt8) : Prop :=
  ∃ front last, text = front ++ last :: rest ∧ 0x20 < last

namespace EndsBefore

variable {text middle rest : List UInt8}

theorem suffix (ends : EndsBefore text rest) : rest <:+ text := by
  obtain ⟨front, last, rfl, -⟩ := ends
  exact ⟨front ++ [last], by simp⟩

theorem of_suffix (suffix : middle <:+ text) (ends : EndsBefore middle rest) :
    EndsBefore text rest := by
  obtain ⟨before, rfl⟩ := suffix
  obtain ⟨front, last, rfl, visible⟩ := ends
  exact ⟨before ++ front, last, (List.append_assoc _ _ _).symm, visible⟩

theorem cons (b : UInt8) (ends : EndsBefore text rest) : EndsBefore (b :: text) rest :=
  ends.of_suffix (List.suffix_cons b text)

theorem trans (first : EndsBefore text middle) (second : EndsBefore middle rest) :
    EndsBefore text rest := second.of_suffix first.suffix

theorem of_blanks {b : UInt8} (visible : 0x20 < b) (blanks : Blanks text (b :: rest)) :
    EndsBefore text rest := by
  obtain ⟨front, -, rfl⟩ := blanks
  exact ⟨front, b, rfl, visible⟩

end EndsBefore

theorem Grammar.Blanks.suffix {text rest : List UInt8} (blanks : Blanks text rest) :
    rest <:+ text := by
  obtain ⟨front, -, rfl⟩ := blanks
  exact List.suffix_append front rest

/-! ## Numbers -/

theorem lt_of_isDigit {d : UInt8} (digit : isDigit d = true) : 0x20 < d := by
  simp only [isDigit, Bool.and_eq_true, decide_eq_true_eq] at digit
  exact UInt8.lt_of_lt_of_le (by decide) digit.1

theorem endsBefore_of_digits {text digits rest : List UInt8} (run : Digits text digits rest)
    (filled : digits ≠ []) : EndsBefore text rest := by
  obtain ⟨rfl, all, -⟩ := run
  rcases List.eq_nil_or_concat digits with rfl | ⟨front, last, rfl⟩
  · exact absurd rfl filled
  · exact ⟨front, last, by simp, lt_of_isDigit (all last (by simp))⟩

theorem endsBefore_of_whole {text digits rest : List UInt8} (whole : Whole text digits rest) :
    EndsBefore text rest := by
  cases whole with
  | zero => exact ⟨[], 0x30, rfl, by decide⟩
  | @other b text digits _ first _ others =>
    by_cases filled : digits = []
    · obtain ⟨rfl, -, -⟩ := others
      exact ⟨[], b, by simp [filled], lt_of_isDigit first⟩
    · exact (endsBefore_of_digits others filled).cons b

theorem eq_or_endsBefore_of_fraction {text digits rest : List UInt8}
    (fraction : Fraction text digits rest) : text = rest ∨ EndsBefore text rest := by
  cases fraction with
  | absent => exact .inl rfl
  | present filled run => exact .inr ((endsBefore_of_digits run filled).cons 0x2E)

theorem eq_or_endsBefore_of_exponent {text rest : List UInt8} {scale : Option (Bool × List UInt8)}
    (exponent : Exponent text scale rest) : text = rest ∨ EndsBefore text rest := by
  cases exponent with
  | absent => exact .inl rfl
  | @present letter _ signed _ _ _ _ sign filled run =>
    have ends := endsBefore_of_digits run filled
    refine .inr (EndsBefore.cons letter ?_)
    cases sign with
    | plus => exact ends.cons 0x2B
    | minus => exact ends.cons 0x2D
    | absent => exact ends

theorem endsBefore_of_numeral {text rest : List UInt8} {written : NumberText}
    (numeral : Numeral text written rest) : EndsBefore text rest := by
  obtain ⟨before, after, scale⟩ := numeral
  have whole := endsBefore_of_whole before
  rcases eq_or_endsBefore_of_fraction after with rfl | fraction
  · rcases eq_or_endsBefore_of_exponent scale with rfl | exponent
    · exact whole
    · exact whole.trans exponent
  · rcases eq_or_endsBefore_of_exponent scale with rfl | exponent
    · exact whole.trans fraction
    · exact (whole.trans fraction).trans exponent

/-! ## Strings -/

theorem suffix_of_hex {text rest : List UInt8} {n : Nat} (hex : Hex text n rest) : rest <:+ text := by
  cases hex with
  | mk => exact ⟨[_, _, _, _], rfl⟩

theorem suffix_of_escape {text rest : List UInt8} {c : Char} (escape : Escape text c rest) :
    rest <:+ text := by
  cases escape with
  | letter => exact List.suffix_cons _ _
  | code hex => exact (suffix_of_hex hex).trans (List.suffix_cons _ _)
  | @pair _ after _ _ _ first _ second =>
    have between : after <:+ 0x5C :: 0x75 :: after := ⟨[0x5C, 0x75], rfl⟩
    exact (((suffix_of_hex second).trans between).trans (suffix_of_hex first)).trans
      (List.suffix_cons _ _)

theorem endsBefore_of_characters {text rest : List UInt8} {content : List Char}
    (characters : Characters text content rest) : EndsBefore text rest := by
  induction characters with
  | close => exact ⟨[], 0x22, rfl, by decide⟩
  | plain _ _ _ _ ih => exact ih.of_suffix (List.suffix_append _ _)
  | escape escape _ ih => exact (ih.of_suffix (suffix_of_escape escape)).cons 0x5C

/-! ## Values -/

theorem endsBefore_of_word {letter : UInt8} {letters : List UInt8} {constant : Json}
    (known : (letter, letters, constant) ∈ words) (rest : List UInt8) :
    EndsBefore (letter :: (letters ++ rest)) rest := by
  simp only [words, List.mem_cons, List.not_mem_nil, or_false, Prod.mk.injEq] at known
  rcases known with ⟨rfl, rfl, -⟩ | ⟨rfl, rfl, -⟩ | ⟨rfl, rfl, -⟩
  · exact ⟨[0x6E, 0x75, 0x6C], 0x6C, rfl, by decide⟩
  · exact ⟨[0x74, 0x72, 0x75], 0x65, rfl, by decide⟩
  · exact ⟨[0x66, 0x61, 0x6C, 0x73], 0x65, rfl, by decide⟩

mutual

theorem endsBefore_of_value {depth : Nat} {text rest : List UInt8} {value : Json} :
    Value depth text value rest → EndsBefore text rest
  | .word known => endsBefore_of_word known rest
  | .positive numeral _ => endsBefore_of_numeral numeral
  | .negative numeral _ => (endsBefore_of_numeral numeral).cons 0x2D
  | .string characters => (endsBefore_of_characters characters).cons 0x22
  | .noItems close => (EndsBefore.of_blanks (by decide) close).cons 0x5B
  | .array blanks listed => ((endsBefore_of_items listed).of_suffix blanks.suffix).cons 0x5B
  | .object listed => (endsBefore_of_object listed).cons 0x7B

theorem endsBefore_of_items {depth : Nat} {text rest : List UInt8} {items : List Json} :
    Items depth text items rest → EndsBefore text rest
  | .last value close => (endsBefore_of_value value).trans (.of_blanks (by decide) close)
  | .more value comma blanks listed =>
    (endsBefore_of_value value).trans <| (EndsBefore.of_blanks (by decide) comma).trans <|
      (endsBefore_of_items listed).of_suffix blanks.suffix

theorem endsBefore_of_object {depth : Nat} {text rest : List UInt8} {entries : List (String × Json)} :
    Grammar.Object depth text entries rest → EndsBefore text rest
  | .empty close => .of_blanks (by decide) close
  | .filled blanks listed => (endsBefore_of_entries listed).of_suffix blanks.suffix

theorem endsBefore_of_entry {depth : Nat} {text rest : List UInt8} {entry : String × Json} :
    Entry depth text entry rest → EndsBefore text rest
  | .mk named colon blanks valued =>
    ((endsBefore_of_characters named).cons 0x22).trans <|
      (EndsBefore.of_blanks (by decide) colon).trans <|
        (endsBefore_of_value valued).of_suffix blanks.suffix

theorem endsBefore_of_entries {depth : Nat} {text rest : List UInt8}
    {entries : List (String × Json)} : Entries depth text entries rest → EndsBefore text rest
  | .last first close => (endsBefore_of_entry first).trans (.of_blanks (by decide) close)
  | .more first comma blanks listed =>
    (endsBefore_of_entry first).trans <| (EndsBefore.of_blanks (by decide) comma).trans <|
      (endsBefore_of_entries listed).of_suffix blanks.suffix

end

/-- A value begins with a byte above the space. -/
theorem exists_first_of_value {depth : Nat} {text rest : List UInt8} {value : Json}
    (derived : Value depth text value rest) : ∃ b after, text = b :: after ∧ 0x20 < b := by
  cases derived with
  | positive numeral =>
    obtain ⟨d, after, same, digit⟩ := numeral.exists_first
    exact ⟨d, after, same, lt_of_isDigit digit⟩
  | word known =>
    have all : ∀ word ∈ words, 0x20 < word.1 := by decide
    exact ⟨_, _, rfl, all _ known⟩
  | _ => exact ⟨_, _, rfl, by decide⟩

/-- A JSON text is its value with blanks around it, and the value begins and ends with bytes above the
space. -/
theorem exists_core_of_isText {text : List UInt8} {value : Json} (isText : IsText text value) :
    ∃ before core after, text = before ++ core ++ after ∧ core ≠ [] ∧
      (∀ b ∈ core.head?, 0x20 < b) ∧ (∀ b ∈ core.getLast?, 0x20 < b) ∧
      (∀ b ∈ before, isBlank b = true) ∧ ∀ b ∈ after, isBlank b = true := by
  obtain ⟨body, rest, ⟨before, blanks, rfl⟩, derived, ⟨after, others, rfl⟩⟩ := isText
  obtain ⟨front, last, ends, visible⟩ := endsBefore_of_value derived
  obtain ⟨first, _, begins, visible'⟩ := exists_first_of_value derived
  refine ⟨before, front ++ [last], after, by simp [ends], by simp, ?_, by simpa using visible, blanks,
    others⟩
  have head : (front ++ [last]).head? = some first := by
    have same := congrArg List.head? (ends.symm.trans begins)
    cases front <;> simpa using same
  rw [head]
  rintro _ ⟨⟩
  exact visible'

/-! ## Longer texts -/

section

variable {more : List UInt8} (ends : Delimited more)
include ends

theorem Grammar.Digits.append {text digits rest : List UInt8} (run : Digits text digits rest) :
    Digits (text ++ more) digits (rest ++ more) := by
  obtain ⟨rfl, all, ended⟩ := run
  refine ⟨List.append_assoc _ _ _, all, ?_⟩
  cases rest with
  | nil => exact ends.ends_number.1
  | cons => exact ended

theorem Grammar.Whole.append {text digits rest : List UInt8} (whole : Whole text digits rest) :
    Whole (text ++ more) digits (rest ++ more) := by
  cases whole with
  | zero ended =>
    refine .zero ?_
    cases rest with
    | nil => exact ends.ends_number.1
    | cons => exact ended
  | other first nonzero others => exact .other first nonzero (others.append ends)

theorem Grammar.Fraction.append {text digits rest : List UInt8}
    (fraction : Fraction text digits rest) : Fraction (text ++ more) digits (rest ++ more) := by
  cases fraction with
  | absent pointless =>
    refine .absent ?_
    cases text with
    | nil => exact ends.ends_number.2.1
    | cons => exact pointless
  | present filled run => exact .present filled (run.append ends)

theorem Grammar.Exponent.append {text rest : List UInt8} {scale : Option (Bool × List UInt8)}
    (exponent : Exponent text scale rest) : Exponent (text ++ more) scale (rest ++ more) := by
  cases exponent with
  | absent unmarked =>
    refine .absent ?_
    cases text with
    | nil => exact ends.ends_number.2.2
    | cons => exact unmarked
  | present marked sign filled run =>
    refine .present marked ?_ filled (run.append ends)
    cases sign with
    | plus => exact .plus
    | minus => exact .minus
    | absent => exact .absent

theorem Grammar.Numeral.append {text rest : List UInt8} {written : NumberText}
    (numeral : Numeral text written rest) : Numeral (text ++ more) written (rest ++ more) := by
  obtain ⟨before, after, scale⟩ := numeral
  exact .mk (before.append ends) (after.append ends) (scale.append ends)

end

section

variable {text rest : List UInt8} (more : List UInt8)

theorem Grammar.Blanks.append (blanks : Blanks text rest) : Blanks (text ++ more) (rest ++ more) := by
  obtain ⟨front, all, rfl⟩ := blanks
  exact ⟨front, all, List.append_assoc _ _ _⟩

theorem Grammar.Hex.append {n : Nat} (hex : Hex text n rest) :
    Hex (text ++ more) n (rest ++ more) := by
  cases hex with
  | mk first second third fourth => exact .mk first second third fourth

theorem Grammar.Escape.append {c : Char} (escape : Escape text c rest) :
    Escape (text ++ more) c (rest ++ more) := by
  cases escape with
  | letter known => exact .letter known
  | code hex whole => exact .code (hex.append more) whole
  | pair first high second low => exact .pair (first.append more) high (second.append more) low

theorem Grammar.Characters.append {content : List Char} (characters : Characters text content rest) :
    Characters (text ++ more) content (rest ++ more) := by
  induction characters with
  | close => exact .close
  | plain printed unquoted unescaped _ ih =>
    rw [List.append_assoc]
    exact .plain printed unquoted unescaped ih
  | escape escape _ ih => exact .escape (escape.append more) ih

end

mutual

/-- A value stays what it is when more stands behind it, as long as this does not continue it. -/
theorem Grammar.Value.append {depth : Nat} {text rest more : List UInt8} {value : Json}
    (ends : Delimited more) :
    Value depth text value rest → Value depth (text ++ more) value (rest ++ more)
  | .word known => by
    rw [List.cons_append, List.append_assoc]
    exact .word known
  | .positive numeral value => .positive (numeral.append ends) value
  | .negative numeral value => .negative (numeral.append ends) value
  | .string characters => .string (characters.append more)
  | .noItems close => .noItems (close.append more)
  | .array blanks listed => .array (blanks.append more) (listed.append ends)
  | .object listed => .object (listed.append ends)

theorem Grammar.Items.append {depth : Nat} {text rest more : List UInt8} {items : List Json}
    (ends : Delimited more) :
    Items depth text items rest → Items depth (text ++ more) items (rest ++ more)
  | .last value close => .last (value.append ends) (close.append more)
  | .more value comma blanks listed =>
    .more (value.append ends) (comma.append more) (blanks.append more) (listed.append ends)

theorem Grammar.Object.append {depth : Nat} {text rest more : List UInt8}
    {entries : List (String × Json)} (ends : Delimited more) :
    Grammar.Object depth text entries rest → Grammar.Object depth (text ++ more) entries (rest ++ more)
  | .empty close => .empty (close.append more)
  | .filled blanks listed => .filled (blanks.append more) (listed.append ends)

theorem Grammar.Entry.append {depth : Nat} {text rest more : List UInt8} {entry : String × Json}
    (ends : Delimited more) :
    Entry depth text entry rest → Entry depth (text ++ more) entry (rest ++ more)
  | .mk named colon blanks valued =>
    .mk (named.append more) (colon.append more) (blanks.append more) (valued.append ends)

theorem Grammar.Entries.append {depth : Nat} {text rest more : List UInt8}
    {entries : List (String × Json)} (ends : Delimited more) :
    Entries depth text entries rest → Entries depth (text ++ more) entries (rest ++ more)
  | .last first close => .last (first.append ends) (close.append more)
  | .more first comma blanks listed =>
    .more (first.append ends) (comma.append more) (blanks.append more) (listed.append ends)

end

/-- A JSON text with blanks put around it is a text of the same value. -/
theorem IsText.padded {text before after : List UInt8} {value : Json} (isText : IsText text value)
    (blanks : ∀ b ∈ before, isBlank b = true) (blanks' : ∀ b ∈ after, isBlank b = true) :
    IsText (before ++ text ++ after) value := by
  obtain ⟨body, rest, first, derived, last⟩ := isText
  have ends : Delimited after := fun b head => .inl (blanks' b (List.mem_of_mem_head? head))
  refine ⟨body ++ after, rest ++ after, ?_, derived.append ends, ?_⟩
  · rw [List.append_assoc]
    exact Blanks.trans ⟨before, blanks, rfl⟩ (first.append after)
  · exact (last.append after).trans ⟨after, blanks', (List.append_nil _).symm⟩

end ToolGateway.Json
