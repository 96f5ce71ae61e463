/-!
# Why a text is not JSON

A fault, and the position it is reported at. A position is held as the number of bytes that lie
beyond it, which a reader knows from what it has left; the line and the column follow from the text.
-/

namespace ToolGateway.Json

/-- What is wrong with a text. -/
inductive Fault where
  | valueCut
  | arrayCut
  | objectCut
  | stringCut
  | valueExpected
  | wordExpected
  | numberMalformed
  | numberTooLarge
  | commaOrBracketExpected
  | commaOrBraceExpected
  | colonExpected
  | keyExpected
  | trailingComma
  | controlCharacter
  | unknownEscape
  | pairCut
  | surrogateAlone
  | notUnicode
  | tooDeep
  | trailingText
deriving DecidableEq, Inhabited

def Fault.message : Fault → String
  | valueCut => "EOF while parsing a value"
  | arrayCut => "EOF while parsing a list"
  | objectCut => "EOF while parsing an object"
  | stringCut => "EOF while parsing a string"
  | valueExpected => "expected value"
  | wordExpected => "expected ident"
  | numberMalformed => "invalid number"
  | numberTooLarge => "number out of range"
  | commaOrBracketExpected => "expected `,` or `]`"
  | commaOrBraceExpected => "expected `,` or `\x7d`"
  | colonExpected => "expected `:`"
  | keyExpected => "key must be a string"
  | trailingComma => "trailing comma"
  | controlCharacter => "control character (\\u0000-\\u001F) found while parsing a string"
  | unknownEscape => "invalid escape"
  | pairCut => "unexpected end of hex escape"
  | surrogateAlone => "lone leading surrogate in hex escape"
  | notUnicode => "invalid unicode code point"
  | tooDeep => "recursion limit exceeded"
  | trailingText => "trailing characters"

/-- A fault and the number of bytes beyond its position. -/
structure ReadError where
  fault : Fault
  beyond : Nat
deriving DecidableEq, Inhabited

namespace ReadError

/-- A fault right before `rest`, seen after the bytes before it were taken. -/
def before (fault : Fault) (rest : List UInt8) : ReadError := ⟨fault, rest.length⟩

/-- A fault of the first byte of `rest`, which is not taken; at the end of the text the position is
the end itself. -/
def upon (fault : Fault) (rest : List UInt8) : ReadError := ⟨fault, rest.length - 1⟩

/-- The line of a position, counted from one, and the number of bytes before it on that line. -/
def position (error : ReadError) (text : List UInt8) : Nat × Nat :=
  let before := text.take (text.length - error.beyond)
  (before.count 0x0A + 1, (before.reverse.takeWhile (· ≠ 0x0A)).length)

/-- The wording of an error in `text`. -/
def message (error : ReadError) (text : List UInt8) : String :=
  let (line, column) := error.position text
  error.fault.message ++ " at line " ++ toString line ++ " column " ++ toString column

end ReadError

end ToolGateway.Json
