import ToolGateway.Number.Word
import ToolGateway.Toml.Basic
import ToolGateway.Toml.Text

/-!
# TOML numbers, dates and times

Whole numbers of 64 bits in four bases, floating-point numbers, and dates and times. Dates and times
come out as their normal text: two digits a part, a `T` between, fractions of a second without final
zeros and at most nine digits long, and offsets as hours and minutes.
-/

namespace ToolGateway.Toml

/-! ## Numbers -/

/-- Takes digits of a class, a single underscore allowed between two. -/
def digitRun (isDigit : Char → Bool) : Nat → Scanner (List Char)
  | 0 => failure
  | fuel + 1 => do
    let first ← Scanner.oneOf isDigit
    let more ← Scanner.takeWhile isDigit
    match ← (some <$> (Scanner.takeExactly ['_'] *> digitRun isDigit fuel)) <|> pure none with
    | some rest => return first :: more ++ rest
    | none => return first :: more

/-- Takes a sign; whether it is a minus sign. -/
def sign : Scanner Bool := do
  if ← Scanner.accept ['-'] then return true
  let _ ← Scanner.accept ['+']
  return false

/-- Takes a sign and the digits of a decimal number; a zero stands alone. -/
def decimalDigits (fuel : Nat) : Scanner (Bool × List Char) := do
  let minus ← sign
  if ← Scanner.accept ['0'] then return (minus, ['0'])
  return (minus, ← digitRun Char.isDigit fuel)

def wholeNumber (fuel : Nat) : Scanner Int := do
  let value ← magnitude
  guard (isInt64 value)
  return value
where
  /-- The number, however large. -/
  magnitude : Scanner Int := do
    if ← Scanner.accept ['0', 'x'] then
      return digitsValue 16 (← digitRun isHexDigit fuel)
    if ← Scanner.accept ['0', 'o'] then
      return digitsValue 8 (← digitRun (fun c => '0' ≤ c && c ≤ '7') fuel)
    if ← Scanner.accept ['0', 'b'] then
      return digitsValue 2 (← digitRun (fun c => c = '0' || c = '1') fuel)
    let (minus, digits) ← decimalDigits fuel
    let value : Int := digitsValue 10 digits
    return if minus then -value else value

/-- Takes the exponent of a floating-point number. -/
def exponent (fuel : Nat) : Scanner Int := do
  let _ ← Scanner.oneOf fun c => c = 'e' || c = 'E'
  let minus ← sign
  let value : Int := digitsValue 10 (← digitRun Char.isDigit fuel)
  return if minus then -value else value

/-- Takes a floating-point number with a point or an exponent. One that is too large is refused if
it is positive. -/
def decimalFloat (fuel : Nat) : Scanner Real64 := do
  let (minus, whole) ← decimalDigits fuel
  let value ←
    if ← Scanner.accept ['.'] then do
      let fraction ← digitRun Char.isDigit fuel
      let power ← exponent fuel <|> pure 0
      pure (Real64.ofDecimal minus (digitsValue 10 (whole ++ fraction)) (power - fraction.length))
    else do
      let power ← exponent fuel
      pure (Real64.ofDecimal minus (digitsValue 10 whole) power)
  guard (value ≠ .infinite false)
  return value

/-- Takes one of the named floating-point numbers. -/
def namedFloat : Scanner Real64 := do
  let minus ← sign
  if ← Scanner.accept ['i', 'n', 'f'] then return .infinite minus
  Scanner.takeExactly ['n', 'a', 'n']
  return .nan

/-! ## Dates and times -/

/-- Takes exactly `count` digits and their value. -/
def fixedDigits (count : Nat) : Scanner Nat := do
  let digits ← (List.replicate count ()).mapM fun _ => Scanner.oneOf Char.isDigit
  return digitsValue 10 digits

/-- Takes two digits whose value lies between two numbers. -/
def twoDigits (least most : Nat) : Scanner Nat := do
  let value ← fixedDigits 2
  guard (least ≤ value ∧ value ≤ most)
  return value

def padded (length n : Nat) : String :=
  let digits := Nat.toDigits 10 n
  String.ofList (List.replicate (length - digits.length) '0' ++ digits)

def daysIn (year month : Nat) : Nat :=
  if month = 2 then
    if year % 4 = 0 ∧ (year % 100 ≠ 0 ∨ year % 400 = 0) then 29 else 28
  else if [4, 6, 9, 11].contains month then 30
  else 31

def date : Scanner String := do
  let year ← fixedDigits 4
  Scanner.takeExactly ['-']
  let month ← twoDigits 1 12
  Scanner.takeExactly ['-']
  let day ← twoDigits 1 (daysIn year month)
  return padded 4 year ++ "-" ++ padded 2 month ++ "-" ++ padded 2 day

/-- Takes the fraction of a second; its text, empty for a whole second. -/
def secondFraction : Scanner String := do
  if ← Scanner.accept ['.'] then
    let digits ← Scanner.takeWhile Char.isDigit
    guard !digits.isEmpty
    let kept := ((digits.take 9).reverse.dropWhile (· = '0')).reverse
    return if kept.isEmpty then "" else "." ++ String.ofList kept
  else return ""

def time : Scanner String := do
  let hour ← twoDigits 0 23
  Scanner.takeExactly [':']
  let minute ← twoDigits 0 59
  Scanner.takeExactly [':']
  let second ← twoDigits 0 60
  let fraction ← secondFraction
  return padded 2 hour ++ ":" ++ padded 2 minute ++ ":" ++ padded 2 second ++ fraction

/-- Takes the offset of a time, if there is one. An offset of zero is positive. -/
def offset : Scanner String := do
  match ← Scanner.peek with
  | some 'Z' | some 'z' =>
    let _ ← Scanner.next
    return "Z"
  | some '+' | some '-' =>
    let minus ← sign
    let hours ← twoDigits 0 23
    Scanner.takeExactly [':']
    let minutes ← twoDigits 0 59
    let mark := if minus ∧ (hours ≠ 0 ∨ minutes ≠ 0) then "-" else "+"
    return mark ++ padded 2 hours ++ ":" ++ padded 2 minutes
  | _ => return ""

def timeOfDay : Scanner String := do
  let _ ← Scanner.oneOf fun c => c = 'T' || c = 't' || c = ' '
  let clock ← time
  return "T" ++ clock ++ (← offset)

def dateTime : Scanner String :=
  (do
    let day ← date
    let rest ← timeOfDay <|> pure ""
    return day ++ rest) <|> time

/-- The normal text of the date or time that a string is. -/
def normalDatetime? (text : String) : Option String :=
  match dateTime.run text.toList with
  | some (normal, []) => some normal
  | _ => none

/-- Takes a number, date or time. -/
def numeric (fuel : Nat) : Scanner Toml :=
  (Toml.datetime <$> dateTime) <|> (Toml.float <$> decimalFloat fuel)
    <|> (Toml.float <$> namedFloat) <|> (Toml.integer <$> wholeNumber fuel)

end ToolGateway.Toml
