/-!
# Scanning TOML text

Steps that take characters from the front of a text: characters of a class, blanks, comments, line
ends. A step fails without saying why, since a text that is not TOML is refused as a whole. Loops
take a number of steps at most, for which the length of the text is enough.
-/

namespace ToolGateway.Toml

/-- A step that takes characters from the front of a text. -/
abbrev Scanner := StateT (List Char) Option

namespace Scanner

def next : Scanner Char
  | [] => none
  | c :: rest => some (c, rest)

def peek : Scanner (Option Char) := fun text => some (text.head?, text)

def atEnd : Scanner Bool := fun text => some (text.isEmpty, text)

def takeWhile (p : Char → Bool) : Scanner (List Char) := fun text =>
  some (text.takeWhile p, text.dropWhile p)

/-- Takes the given characters if they stand next. -/
def takeExactly (expected : List Char) : Scanner Unit := fun text =>
  if expected.isPrefixOf text then some ((), text.drop expected.length) else none

/-- Whether the given characters stand next; takes them if so. -/
def accept (expected : List Char) : Scanner Bool := fun text =>
  if expected.isPrefixOf text then some (true, text.drop expected.length) else some (false, text)

def oneOf (p : Char → Bool) : Scanner Char := do
  let c ← next
  guard (p c)
  return c

end Scanner

def isBlank (c : Char) : Bool := c = ' ' || c = '\t'

/-- The characters of comments: all but the controls other than the tab. -/
def isCommentChar (c : Char) : Bool := c = '\t' || 0x20 ≤ c.toNat && c.toNat ≠ 0x7F

def skipBlanks : Scanner Unit := do
  let _ ← Scanner.takeWhile isBlank

/-- Takes a line feed, with a carriage return before it or not. -/
def newline : Scanner Unit :=
  Scanner.takeExactly ['\n'] <|> Scanner.takeExactly ['\r', '\n']

/-- Takes a comment, if one stands next. -/
def skipComment : Scanner Unit := do
  if ← Scanner.accept ['#'] then
    let _ ← Scanner.takeWhile isCommentChar

/-- Takes blanks and a comment up to the end of the line or of the text. -/
def lineEnd : Scanner Unit := do
  skipBlanks
  skipComment
  if ← Scanner.atEnd then return else newline

/-- Takes blanks, comments and line ends, at most `fuel` lines. -/
def skipSpace : Nat → Scanner Unit
  | 0 => failure
  | fuel + 1 => do
    skipBlanks
    match ← Scanner.peek with
    | some '#' =>
      skipComment
      newline
      skipSpace fuel
    | some '\n' | some '\r' =>
      newline
      skipSpace fuel
    | _ => return

end ToolGateway.Toml
