import ToolGateway.Number.Digits
import ToolGateway.Toml.Scanner

/-!
# TOML strings and keys

The four forms of strings, with or without escapes and on one line or several, and the keys made of
them.
-/

namespace ToolGateway.Toml

/-- The characters strings may hold as they are, apart from their quotes and escapes. -/
def isPlain (c : Char) : Bool := isCommentChar c

def isHexDigit (c : Char) : Bool :=
  c.isDigit || 'a' ≤ c && c ≤ 'f' || 'A' ≤ c && c ≤ 'F'

/-- Takes exactly `count` hexadecimal digits that name a character. -/
def charOfHex (count : Nat) : Scanner Char := do
  let digits ← (List.replicate count ()).mapM fun _ => Scanner.oneOf isHexDigit
  let code := digitsValue 16 digits
  guard code.isValidChar
  return Char.ofNat code

/-- Takes an escape, the backslash taken. -/
def escape : Scanner Char := do
  match ← Scanner.next with
  | 'b' => return '\x08'
  | 't' => return '\t'
  | 'n' => return '\n'
  | 'f' => return '\x0c'
  | 'r' => return '\r'
  | '"' => return '"'
  | '\\' => return '\\'
  | 'u' => charOfHex 4
  | 'U' => charOfHex 8
  | _ => failure

/-- Takes the rest of a string on one line, its opening quote taken. -/
def basicRest : Nat → List Char → Scanner String
  | 0, _ => failure
  | fuel + 1, done => do
    let c ← Scanner.next
    if c = '"' then return String.ofList done.reverse
    else if c = '\\' then basicRest fuel ((← escape) :: done)
    else
      guard (isPlain c)
      basicRest fuel (c :: done)

/-- Takes the rest of a string on one line without escapes, its opening quote taken. -/
def literalRest : Scanner String := do
  let text ← Scanner.takeWhile fun c => isPlain c && c ≠ '\x27'
  Scanner.takeExactly ['\x27']
  return String.ofList text

/-- Takes the quotes that stand next inside a string of several lines. Up to two of them belong to
the text; with three or more the string ends, and up to two before the last three are text. -/
def quotesInText (quote : Char) (done : List Char) : Scanner (Bool × List Char) := fun text =>
  let count := min (text.takeWhile (· = quote)).length 5
  let ended := 3 ≤ count
  let kept := if ended then count - 3 else count
  some ((ended, List.replicate kept quote ++ done), text.drop count)

/-- Takes the blanks and line ends that a backslash at the end of a line joins. -/
def lineJoin (fuel : Nat) : Scanner Unit := do
  skipBlanks
  newline
  joined fuel
where
  joined : Nat → Scanner Unit
    | 0 => failure
    | fuel + 1 => do
      skipBlanks
      match ← Scanner.peek with
      | some '\n' | some '\r' =>
        newline
        joined fuel
      | _ => return

/-- Takes the rest of a string of several lines; a line end in it is a line feed. -/
def linesRest (quote : Char) (escapes : Bool) : Nat → List Char → Scanner String
  | 0, _ => failure
  | fuel + 1, done => do
    match ← Scanner.peek with
    | none => failure
    | some c =>
      if c = quote then
        let (ended, done) ← quotesInText quote done
        if ended then return String.ofList done.reverse else linesRest quote escapes fuel done
      else if c = '\n' ∨ c = '\r' then
        newline
        linesRest quote escapes fuel ('\n' :: done)
      else
        let _ ← Scanner.next
        if escapes ∧ c = '\\' then
          if (← (some <$> lineJoin fuel) <|> pure none).isSome then
            linesRest quote escapes fuel done
          else linesRest quote escapes fuel ((← escape) :: done)
        else
          guard (isPlain c)
          linesRest quote escapes fuel (c :: done)

def anyString (fuel : Nat) : Scanner String := do
  if ← Scanner.accept ['"', '"', '"'] then
    let _ ← (some <$> newline) <|> pure none
    linesRest '"' true fuel []
  else if ← Scanner.accept ['\x27', '\x27', '\x27'] then
    let _ ← (some <$> newline) <|> pure none
    linesRest '\x27' false fuel []
  else if ← Scanner.accept ['"'] then basicRest fuel []
  else
    Scanner.takeExactly ['\x27']
    literalRest

def isBareKeyChar (c : Char) : Bool := c.isAlphanum || c = '_' || c = '-'

def keyPart (fuel : Nat) : Scanner String := do
  match ← Scanner.peek with
  | some '"' =>
    let _ ← Scanner.next
    basicRest fuel []
  | some '\x27' =>
    let _ ← Scanner.next
    literalRest
  | _ =>
    let name ← Scanner.takeWhile isBareKeyChar
    guard !name.isEmpty
    return String.ofList name

/-- Takes the parts of a key, points between them. -/
def key : Nat → Scanner (List String)
  | 0 => failure
  | fuel + 1 => do
    skipBlanks
    let first ← keyPart fuel
    skipBlanks
    if ← Scanner.accept ['.'] then return first :: (← key fuel) else return [first]

end ToolGateway.Toml
