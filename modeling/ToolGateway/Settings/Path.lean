import ToolGateway.Number.Digits
import ToolGateway.Number.Word

/-!
# Paths to settings

A key may be written as a path that leads to a value inside other values: names with points between,
each with any number of places in brackets after it, as in `a.b[0][-1].c`. A key that is not written
like this is a name as a whole.
-/

namespace ToolGateway

/-- A step of a path into a value. -/
inductive SettingStep where
  /-- To the entry of a table. -/
  | entry (name : String)
  /-- To a place of an array, counted from its end if negative. -/
  | place (index : Int)
deriving DecidableEq, Inhabited

/-- The steps from the outermost table to a value. -/
abbrev SettingPath := List SettingStep

namespace SettingPath

def isNameChar (c : Char) : Bool := c.isAlphanum || c = ' ' || c = '_' || c = '-'

/-- The characters that may stand around the number of a place. -/
def isPadding (c : Char) : Bool := c = ' ' || c = '\t'

/-- The number that a text is: decimal digits with an optional minus sign, a whole number of 64
bits, with nothing around it but padding. -/
def index? (text : List Char) : Option Int :=
  let text := text.dropWhile isPadding
  let (minus, text) := match text with
    | '-' :: rest => (true, rest)
    | rest => (false, rest)
  let digits := text.takeWhile Char.isDigit
  let size : Int := digitsValue 10 digits
  let index := if minus then -size else size
  if !digits.isEmpty && (text.dropWhile Char.isDigit).all isPadding && isInt64 index then some index
  else none

/-- The step to a place, its opening bracket taken. -/
def place? (text : List Char) : Option SettingStep :=
  match text.getLast? with
  | some ']' => SettingStep.place <$> index? text.dropLast
  | _ => none

/-- The steps of the part of a path between two points: a name and the places after it. -/
def partSteps? (part : List Char) : Option SettingPath :=
  match part.splitOn '[' with
  | [] => none
  | name :: places =>
    if !name.isEmpty && name.all isNameChar then
      (SettingStep.entry (String.ofList name) :: ·) <$> places.mapM place?
    else none

/-- The path that a key is. -/
def ofKey (key : String) : SettingPath :=
  match (key.toList.splitOn '.').mapM partSteps? with
  | some parts => parts.flatten
  | none => [.entry key]

end SettingPath

end ToolGateway
