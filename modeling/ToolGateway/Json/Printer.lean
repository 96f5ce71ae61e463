import ToolGateway.Json.Basic
import ToolGateway.Number.Layout

/-!
# JSON text

Two written forms of a JSON value: `compact`, without any space, and `pretty`, with one member or
item a line and two spaces of indentation a level. Inside strings only the quote, the backslash and
the characters below U+0020 are escaped.
-/

namespace ToolGateway.Json

def hexDigit (n : Nat) : Char := n.digitChar

/-- The written form of a character inside a string. -/
def escape (c : Char) : List Char :=
  if c = '"' then ['\\', '"']
  else if c = '\\' then ['\\', '\\']
  else if 0x20 ≤ c.toNat then [c]
  else if c.toNat = 0x08 then ['\\', 'b']
  else if c.toNat = 0x09 then ['\\', 't']
  else if c.toNat = 0x0A then ['\\', 'n']
  else if c.toNat = 0x0C then ['\\', 'f']
  else if c.toNat = 0x0D then ['\\', 'r']
  else ['\\', 'u', '0', '0', hexDigit (c.toNat / 16), hexDigit (c.toNat % 16)]

def quoted (s : String) : List Char :=
  '"' :: s.toList.flatMap escape ++ ['"']

def integerChars (n : Int) : List Char :=
  if n < 0 then '-' :: Nat.toDigits 10 n.natAbs else Nat.toDigits 10 n.natAbs

def numberChars : JsonNumber → List Char
  | .integer value => integerChars value
  | .float value => (NumberLayout.wire.text value).toList

def nullChars : List Char := ['n', 'u', 'l', 'l']

def booleanChars : Bool → List Char
  | true => ['t', 'r', 'u', 'e']
  | false => ['f', 'a', 'l', 's', 'e']

mutual

def compactChars : Json → List Char
  | .null => nullChars
  | .boolean value => booleanChars value
  | .number value => numberChars value
  | .string value => quoted value
  | .array items => '[' :: compactItems items ++ [']']
  | .object members => '{' :: compactMembers members ++ ['}']

/-- The items of an array, a comma between two. -/
def compactItems : List Json → List Char
  | [] => []
  | [item] => compactChars item
  | item :: next :: rest => compactChars item ++ ',' :: compactItems (next :: rest)

/-- The members of an object, a comma between two. -/
def compactMembers : List (String × Json) → List Char
  | [] => []
  | [(name, value)] => quoted name ++ ':' :: compactChars value
  | (name, value) :: next :: rest =>
    quoted name ++ ':' :: compactChars value ++ ',' :: compactMembers (next :: rest)

end

/-- The compact form: everything on one line, no space. -/
def compact (value : Json) : String := String.ofList (compactChars value)

def lineBreak (level : Nat) : List Char := '\n' :: List.replicate (2 * level) ' '

mutual

/-- The characters of the pretty form of a value that stands at nesting level `level`. -/
def prettyChars (level : Nat) : Json → List Char
  | .null => nullChars
  | .boolean value => booleanChars value
  | .number value => numberChars value
  | .string value => quoted value
  | .array [] => ['[', ']']
  | .array (item :: rest) => '[' :: prettyItems (level + 1) (item :: rest) ++ lineBreak level ++ [']']
  | .object [] => ['{', '}']
  | .object (member :: rest) =>
    '{' :: prettyMembers (level + 1) (member :: rest) ++ lineBreak level ++ ['}']

/-- The items of an array, each on a line of its own. -/
def prettyItems (level : Nat) : List Json → List Char
  | [] => []
  | [item] => lineBreak level ++ prettyChars level item
  | item :: next :: rest =>
    lineBreak level ++ prettyChars level item ++ ',' :: prettyItems level (next :: rest)

/-- The members of an object, each on a line of its own. -/
def prettyMembers (level : Nat) : List (String × Json) → List Char
  | [] => []
  | [(name, value)] => lineBreak level ++ quoted name ++ ':' :: ' ' :: prettyChars level value
  | (name, value) :: next :: rest =>
    lineBreak level ++ quoted name ++ ':' :: ' ' :: prettyChars level value
      ++ ',' :: prettyMembers level (next :: rest)

end

/-- The pretty form: one item or member a line. -/
def pretty (value : Json) : String := String.ofList (prettyChars 0 value)

end ToolGateway.Json
