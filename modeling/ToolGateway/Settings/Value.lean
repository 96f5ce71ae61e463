import ToolGateway.Number.Digits
import ToolGateway.Number.Word
import ToolGateway.Toml.Scalar

/-!
# Values of settings

A setting is given a value in a file, where it has a type, or as text. A text is guessed to be a
truth value, a whole number, a floating-point number or, failing these, a string. A setting takes a
value of another type where that can stand for one of its own.
-/

namespace ToolGateway

/-- A value that a setting may be given. -/
inductive SettingValue where
  /-- What stands at the places of an array that have been passed over. -/
  | unset
  | string (value : String)
  | integer (value : Int)
  | float (value : Real64)
  | boolean (value : Bool)
  | array (items : List SettingValue)
  | table (members : List (String × SettingValue))
deriving Inhabited

namespace SettingValue

/-- The items of a value; what is no array has none. -/
def items : SettingValue → List SettingValue
  | .array items => items
  | _ => []

/-- The entries of a value; what is no table has none. -/
def members : SettingValue → Members SettingValue
  | .table members => members
  | _ => []

/-! ## Values of a file -/

/-- What stands under the key of dates and times, if that is the first key of a table. -/
def datetimeEntry? : Members Toml → Option Toml
  | [] => none
  | (key, value) :: _ => if key = Toml.datetimeKey then some value else none

mutual

/-- A value of a TOML document. A date or time is a string. A table whose first key is the one of
dates and times stands for the date or time in the string under it, and for nothing if there is
none. -/
def ofToml? : Toml → Option SettingValue
  | .string value => some (.string value)
  | .integer value => some (.integer value)
  | .float value => some (.float value)
  | .boolean value => some (.boolean value)
  | .datetime text => some (.string text)
  | .array items => .array <$> ofTomlItems? items
  | .table members =>
    match datetimeEntry? members with
    | none => .table <$> ofTomlMembers? members
    | some (.string text) => .string <$> Toml.normalDatetime? text
    | some _ => none

def ofTomlItems? : List Toml → Option (List SettingValue)
  | [] => some []
  | item :: rest => do
    let item ← ofToml? item
    return item :: (← ofTomlItems? rest)

def ofTomlMembers? : List (String × Toml) → Option (List (String × SettingValue))
  | [] => some []
  | (key, value) :: rest => do
    let value ← ofToml? value
    return (key, value) :: (← ofTomlMembers? rest)

end

/-! ## Guessing the type of a text -/

/-- The digits at the front and what comes after them. -/
def splitDigits (text : List Char) : List Char × List Char :=
  (text.takeWhile Char.isDigit, text.dropWhile Char.isDigit)

/-- Whether a text is one or more decimal digits. -/
def isNumeral (text : List Char) : Bool := !text.isEmpty && text.all Char.isDigit

/-- Whether a minus sign stands in front, and what comes after the sign. -/
def splitSign : List Char → Bool × List Char
  | '-' :: rest => (true, rest)
  | '+' :: rest => (false, rest)
  | text => (false, text)

def lower (text : String) : String := String.ofList (text.toList.map Char.toLower)

def guessBoolean? (text : String) : Option Bool :=
  if lower text = "true" then some true else if lower text = "false" then some false else none

/-- A whole number of 64 bits with sign. -/
def guessInteger? (text : String) : Option Int :=
  let (minus, digits) := splitSign text.toList
  let size : Int := digitsValue 10 digits
  let value := if minus then -size else size
  if isNumeral digits ∧ isInt64 value then some value
  else none

/-- The exponent that a text is, none if it is empty. -/
def guessExponent? : List Char → Option Int
  | [] => some 0
  | mark :: rest =>
    let (minus, digits) := splitSign rest
    if (mark = 'e' ∨ mark = 'E') ∧ isNumeral digits then
      some (if minus then -digitsValue 10 digits else digitsValue 10 digits)
    else none

/-- A floating-point number: digits with a point before, between or after them and an exponent, or
one of the named numbers. -/
def guessFloat? (text : String) : Option Real64 :=
  let (minus, rest) := splitSign text.toList
  let name := lower (String.ofList rest)
  if name = "inf" ∨ name = "infinity" then some (.infinite minus)
  else if name = "nan" then some .nan
  else
    let (whole, rest) := splitDigits rest
    let (fraction, rest) := match rest with
      | '.' :: rest => splitDigits rest
      | rest => ([], rest)
    if whole.isEmpty && fraction.isEmpty then none
    else
      (guessExponent? rest).map fun exponent =>
        .ofDecimal minus (digitsValue 10 (whole ++ fraction)) (exponent - fraction.length)

def guess (text : String) : SettingValue :=
  match guessBoolean? text with
  | some value => .boolean value
  | none =>
    match guessInteger? text with
    | some value => .integer value
    | none =>
      match guessFloat? text with
      | some value => .float value
      | none => .string text

/-! ## Values as what a setting needs -/

/-- A value as a string: a scalar in its plain written form. -/
def asText? : SettingValue → Option String
  | .string value => some value
  | .boolean value => some (if value then "true" else "false")
  | .integer value => some (toString value)
  | .float value => some (NumberLayout.plain.extendedText value)
  | .array _ | .table _ | .unset => none

/-- The largest natural number of 64 bits. -/
def largestNatural : Nat := wordCount64 - 1

/-- A floating-point number as a natural number of 64 bits, the nearest there is; nothing in
particular counts as zero. -/
def roundToNatural : Real64 → Nat
  | .finite x => if x.negative then 0 else min x.roundAwayToNat largestNatural
  | .infinite negative => if negative then 0 else largestNatural
  | .nan => 0

/-- A text as a natural number of 64 bits; a word that says yes or no is one or zero. -/
def textAsNatural? (text : String) : Option Nat :=
  if ["true", "on", "yes"].contains (lower text) then some 1
  else if ["false", "off", "no"].contains (lower text) then some 0
  else
    let digits := match text.toList with
      | '+' :: rest => rest
      | all => all
    if isNumeral digits ∧ digitsValue 10 digits ≤ largestNatural then
      some (digitsValue 10 digits)
    else none

/-- A value as a natural number of 64 bits. -/
def asNatural? : SettingValue → Option Nat
  | .integer value => if 0 ≤ value then some value.toNat else none
  | .float value => some (roundToNatural value)
  | .boolean value => some (if value then 1 else 0)
  | .string text => textAsNatural? text
  | .array _ | .table _ | .unset => none

/-- A value as one of several named choices: its name, or a table whose only key is its name. Case
does not count. -/
def asChoice? {β : Type} (choices : List (String × β)) : SettingValue → Option β
  | .string name => choices.lookup (lower name)
  | .table [(name, _)] => choices.lookup (lower name)
  | _ => none

/-- A value of a setting that may be left without one. -/
def asOptional? {β : Type} (read : SettingValue → Option β) : SettingValue → Option (Option β)
  | .unset => some none
  | value => some <$> read value

/-- A value as the fields of a record: a table, or an array of the fields in their order. -/
def asFields? (names : List String) : SettingValue → Option (Members SettingValue)
  | .table members => some members
  | .array items => some (names.zip items)
  | _ => none

/-- The field of a record, or what holds without it. -/
def fieldOr {β : Type} (fields : Members SettingValue) (name : String)
    (read : SettingValue → Option β) (absent : β) : Option β :=
  match Members.find? fields name with
  | some value => read value
  | none => some absent

end SettingValue

end ToolGateway
