import ToolGateway.Json.Reader

/-!
# The grammar of JSON texts

Which texts are JSON, and what they stand for, without a reader: every relation here says that a text
begins with something of a certain form, what this stands for, and what is left of the text. The
limits of the format are part of the grammar: how deep arrays and objects may be nested, which
numbers have a value, and that strings are UTF-8.

An object stands for the members it has when its entries are put one after the other, so an entry
replaces the value of an earlier one with the same name.
-/

namespace ToolGateway.Json.Grammar

/-- A text that begins with blanks; not all of them need be taken. -/
def Blanks (text rest : List UInt8) : Prop :=
  ∃ blanks, (∀ b ∈ blanks, isBlank b = true) ∧ text = blanks ++ rest

/-! ## Numbers -/

/-- Digits, and no digit after them. -/
structure Digits (text digits rest : List UInt8) : Prop where
  split : text = digits ++ rest
  digits : ∀ d ∈ digits, isDigit d = true
  ended : rest.head?.any isDigit = false

/-- The digits before the point. A zero stands alone. -/
inductive Whole : List UInt8 → List UInt8 → List UInt8 → Prop where
  | zero {rest : List UInt8} (ended : rest.head?.any isDigit = false) :
      Whole (0x30 :: rest) [0x30] rest
  | other {b : UInt8} {text digits rest : List UInt8} (first : isDigit b = true)
      (nonzero : b ≠ 0x30) (others : Digits text digits rest) :
      Whole (b :: text) (b :: digits) rest

/-- A point and the digits after it, or no point. -/
inductive Fraction : List UInt8 → List UInt8 → List UInt8 → Prop where
  | absent {text : List UInt8} (pointless : text.head? ≠ some 0x2E) : Fraction text [] text
  | present {text digits rest : List UInt8} (filled : digits ≠ []) (run : Digits text digits rest) :
      Fraction (0x2E :: text) digits rest

/-- The sign of an exponent, and whether it is a minus. -/
inductive Sign : List UInt8 → Bool → List UInt8 → Prop where
  | plus {rest : List UInt8} : Sign (0x2B :: rest) false rest
  | minus {rest : List UInt8} : Sign (0x2D :: rest) true rest
  | absent {text : List UInt8} : Sign text false text

/-- The letters before an exponent. -/
def isExponentLetter (b : UInt8) : Prop := b = 0x65 ∨ b = 0x45

/-- An exponent, or none. -/
inductive Exponent : List UInt8 → Option (Bool × List UInt8) → List UInt8 → Prop where
  | absent {text : List UInt8} (unmarked : ∀ b, text.head? = some b → ¬ isExponentLetter b) :
      Exponent text none text
  | present {letter : UInt8} {text signed digits rest : List UInt8} {minus : Bool}
      (marked : isExponentLetter letter) (sign : Sign text minus signed) (filled : digits ≠ [])
      (run : Digits signed digits rest) :
      Exponent (letter :: text) (some (minus, digits)) rest

/-- A number without its minus sign. -/
inductive Numeral : List UInt8 → NumberText → List UInt8 → Prop where
  | mk {text pointed marked rest whole fraction : List UInt8} {exponent : Option (Bool × List UInt8)}
      (before : Whole text whole pointed) (after : Fraction pointed fraction marked)
      (scale : Exponent marked exponent rest) : Numeral text ⟨whole, fraction, exponent⟩ rest

/-! ## Strings -/

/-- Four hexadecimal digits. -/
inductive Hex : List UInt8 → Nat → List UInt8 → Prop where
  | mk {a b c d : UInt8} {w x y z : Nat} {rest : List UInt8} (first : hexValue? a = some w)
      (second : hexValue? b = some x) (third : hexValue? c = some y) (fourth : hexValue? d = some z) :
      Hex (a :: b :: c :: d :: rest) (((w * 16 + x) * 16 + y) * 16 + z) rest

/-- What may stand after a backslash. A character beyond U+FFFF is written as a pair of codes. -/
inductive Escape : List UInt8 → Char → List UInt8 → Prop where
  | letter {b : UInt8} {c : Char} {rest : List UInt8} (known : escaped? b = some c) :
      Escape (b :: rest) c rest
  | code {text rest : List UInt8} {n : Nat} (hex : Hex text n rest)
      (whole : n < 0xD800 ∨ 0xDFFF < n) : Escape (0x75 :: text) (Char.ofNat n) rest
  | pair {text after rest : List UInt8} {n m : Nat} (first : Hex text n (0x5C :: 0x75 :: after))
      (high : 0xD800 ≤ n ∧ n ≤ 0xDBFF) (second : Hex after m rest)
      (low : 0xDC00 ≤ m ∧ m ≤ 0xDFFF) :
      Escape (0x75 :: text) (Char.ofNat (0x10000 + (n - 0xD800) * 0x400 + (m - 0xDC00))) rest

/-- The characters of a string and its closing quote. -/
inductive Characters : List UInt8 → List Char → List UInt8 → Prop where
  | close {rest : List UInt8} : Characters (0x22 :: rest) [] rest
  | plain {c : Char} {text rest : List UInt8} {others : List Char} (printed : 0x20 ≤ c.toNat)
      (unquoted : c.toNat ≠ 0x22) (unescaped : c.toNat ≠ 0x5C)
      (next : Characters text others rest) :
      Characters (String.utf8EncodeChar c ++ text) (c :: others) rest
  | escape {c : Char} {text after rest : List UInt8} {others : List Char}
      (escape : Escape text c after) (next : Characters after others rest) :
      Characters (0x5C :: text) (c :: others) rest

/-! ## Values -/

/-- The words that are values, each by its first letter and the others. -/
def words : List (UInt8 × List UInt8 × Json) :=
  [(0x6E, [0x75, 0x6C, 0x6C], .null), (0x74, [0x72, 0x75, 0x65], .boolean true),
    (0x66, [0x61, 0x6C, 0x73, 0x65], .boolean false)]

mutual

/-- A value whose arrays and objects are nested at most `depth` deep, without blanks before it. -/
inductive Value : Nat → List UInt8 → Json → List UInt8 → Prop where
  | word {depth : Nat} {letter : UInt8} {letters rest : List UInt8} {constant : Json}
      (known : (letter, letters, constant) ∈ words) :
      Value depth (letter :: (letters ++ rest)) constant rest
  | positive {depth : Nat} {text rest : List UInt8} {written : NumberText} {number : JsonNumber}
      (numeral : Numeral text written rest) (value : written.value false = .ok number) :
      Value depth text (.number number) rest
  | negative {depth : Nat} {text rest : List UInt8} {written : NumberText} {number : JsonNumber}
      (numeral : Numeral text written rest) (value : written.value true = .ok number) :
      Value depth (0x2D :: text) (.number number) rest
  | string {depth : Nat} {text rest : List UInt8} {content : List Char}
      (characters : Characters text content rest) :
      Value depth (0x22 :: text) (.string (String.ofList content)) rest
  | noItems {depth : Nat} {text rest : List UInt8} (close : Blanks text (0x5D :: rest)) :
      Value (depth + 1) (0x5B :: text) (.array []) rest
  | array {depth : Nat} {text body rest : List UInt8} {items : List Json}
      (blanks : Blanks text body) (listed : Items depth body items rest) :
      Value (depth + 1) (0x5B :: text) (.array items) rest
  | object {depth : Nat} {text rest : List UInt8} {entries : List (String × Json)}
      (listed : Object depth text entries rest) :
      Value (depth + 1) (0x7B :: text) (.object (Members.putAll [] entries)) rest

/-- The items of an array, at least one, and its closing bracket. -/
inductive Items : Nat → List UInt8 → List Json → List UInt8 → Prop where
  | last {depth : Nat} {text after rest : List UInt8} {item : Json}
      (value : Value depth text item after) (close : Blanks after (0x5D :: rest)) :
      Items depth text [item] rest
  | more {depth : Nat} {text after next body rest : List UInt8} {item : Json} {others : List Json}
      (value : Value depth text item after) (comma : Blanks after (0x2C :: next))
      (blanks : Blanks next body) (listed : Items depth body others rest) :
      Items depth text (item :: others) rest

/-- The entries of an object, if any, and its closing brace. -/
inductive Object : Nat → List UInt8 → List (String × Json) → List UInt8 → Prop where
  | empty {depth : Nat} {text rest : List UInt8} (close : Blanks text (0x7D :: rest)) :
      Object depth text [] rest
  | filled {depth : Nat} {text body rest : List UInt8} {entries : List (String × Json)}
      (blanks : Blanks text body) (listed : Entries depth body entries rest) :
      Object depth text entries rest

/-- An entry of an object: a name and a value. -/
inductive Entry : Nat → List UInt8 → String × Json → List UInt8 → Prop where
  | mk {depth : Nat} {text after next body rest : List UInt8} {name : List Char} {value : Json}
      (named : Characters text name after) (colon : Blanks after (0x3A :: next))
      (blanks : Blanks next body) (valued : Value depth body value rest) :
      Entry depth (0x22 :: text) (String.ofList name, value) rest

/-- Entries of an object, at least one, and its closing brace. -/
inductive Entries : Nat → List UInt8 → List (String × Json) → List UInt8 → Prop where
  | last {depth : Nat} {text after rest : List UInt8} {entry : String × Json}
      (first : Entry depth text entry after) (close : Blanks after (0x7D :: rest)) :
      Entries depth text [entry] rest
  | more {depth : Nat} {text after next body rest : List UInt8} {entry : String × Json}
      {others : List (String × Json)} (first : Entry depth text entry after)
      (comma : Blanks after (0x2C :: next)) (blanks : Blanks next body)
      (listed : Entries depth body others rest) :
      Entries depth text (entry :: others) rest

end

end ToolGateway.Json.Grammar

namespace ToolGateway.Json

/-- A text that is one JSON value, with blanks around it. -/
def IsText (text : List UInt8) (value : Json) : Prop :=
  ∃ body rest, Grammar.Blanks text body ∧ Grammar.Value depthLimit body value rest ∧
    Grammar.Blanks rest []

/-- A text that is one JSON object, with blanks around it, and its entries in order. -/
def IsObjectText (text : List UInt8) (entries : List (String × Json)) : Prop :=
  ∃ body rest, Grammar.Blanks text (0x7B :: body) ∧
    Grammar.Object (depthLimit - 1) body entries rest ∧ Grammar.Blanks rest []

end ToolGateway.Json
