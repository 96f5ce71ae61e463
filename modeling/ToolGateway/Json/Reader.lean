import ToolGateway.Json.Number
import ToolGateway.Text.Utf8

/-!
# Reading JSON

`Json.read` reads a byte sequence as one JSON value with blanks around it. Each step returns what it
leaves of the text together with a proof that this is shorter, so the steps need no bound of their
own. Objects and arrays may be nested 127 deep.
-/

namespace ToolGateway.Json

/-- Something read from a text of `bound` bytes or fewer, and the shorter text left. -/
structure Parsed (α : Type) (bound : Nat) where
  value : α
  rest : List UInt8
  shorter : rest.length < bound

/-- The bytes that may stand around a value: tab, line feed, carriage return and space. -/
def isBlank (b : UInt8) : Bool := b == 0x20 || b == 0x09 || b == 0x0A || b == 0x0D

def skipBlanks (text : List UInt8) : List UInt8 := text.dropWhile isBlank

theorem length_skipBlanks_le (text : List UInt8) : (skipBlanks text).length ≤ text.length := by
  induction text with
  | nil => simp [skipBlanks]
  | cons b rest ih =>
    simp only [skipBlanks, List.dropWhile_cons] at ih ⊢
    split
    · simp only [List.length_cons]
      omega
    · exact Nat.le_refl _

/-! ## Strings -/

def hexValue? (b : UInt8) : Option Nat :=
  if 0x30 ≤ b ∧ b ≤ 0x39 then some (b.toNat - 0x30)
  else if 0x41 ≤ b ∧ b ≤ 0x46 then some (b.toNat - 0x41 + 10)
  else if 0x61 ≤ b ∧ b ≤ 0x66 then some (b.toNat - 0x61 + 10)
  else none

def readHex (text : List UInt8) : Except ReadError (Parsed Nat text.length) :=
  match text with
  | a :: b :: c :: d :: rest =>
    match hexValue? a, hexValue? b, hexValue? c, hexValue? d with
    | some a, some b, some c, some d =>
      .ok ⟨((a * 16 + b) * 16 + c) * 16 + d, rest, by simp only [List.length_cons]; omega⟩
    | _, _, _, _ => .error (.before .unknownEscape rest)
  | _ => .error (.before .stringCut [])

/-- Reads one expected byte of the second half of a pair of escapes. -/
def readPairByte (expected : UInt8) (text : List UInt8) :
    Except ReadError (Parsed Unit text.length) :=
  match text with
  | [] => .error (.before .stringCut [])
  | b :: rest =>
    if b = expected then .ok ⟨(), rest, by simp⟩ else .error (.before .pairCut rest)

/-- Reads a numeric escape, the backslash and the letter taken. Characters beyond U+FFFF are written
as a pair of escapes. -/
def readNumericEscape (text : List UInt8) : Except ReadError (Parsed Char text.length) := do
  let first ← readHex text
  if 0xDC00 ≤ first.value ∧ first.value ≤ 0xDFFF then
    .error (.before .surrogateAlone first.rest)
  else if first.value < 0xD800 ∨ 0xDBFF < first.value then
    .ok ⟨Char.ofNat first.value, first.rest, first.shorter⟩
  else
    let backslash ← readPairByte 0x5C first.rest
    let letter ← readPairByte 0x75 backslash.rest
    let second ← readHex letter.rest
    if second.value < 0xDC00 ∨ 0xDFFF < second.value then
      .error (.before .surrogateAlone second.rest)
    else
      .ok ⟨Char.ofNat (0x10000 + (first.value - 0xD800) * 0x400 + (second.value - 0xDC00)),
        second.rest, by
          have := first.shorter
          have := backslash.shorter
          have := letter.shorter
          have := second.shorter
          omega⟩

def escaped? (b : UInt8) : Option Char :=
  if b = 0x22 then some '"'
  else if b = 0x5C then some '\\'
  else if b = 0x2F then some '/'
  else if b = 0x62 then some '\x08'
  else if b = 0x66 then some '\x0c'
  else if b = 0x6E then some '\n'
  else if b = 0x72 then some '\r'
  else if b = 0x74 then some '\t'
  else none

/-- Reads an escape, the backslash taken. -/
def readEscape (text : List UInt8) : Except ReadError (Parsed Char text.length) :=
  match text with
  | [] => .error (.before .stringCut [])
  | b :: rest =>
    if b = 0x75 then do
      let char ← readNumericEscape rest
      return ⟨char.value, char.rest, by have := char.shorter; simp only [List.length_cons]; omega⟩
    else
      match escaped? b with
      | some c => .ok ⟨c, rest, by simp⟩
      | none => .error (.before .unknownEscape rest)

/-- Reads the rest of a string, its opening quote taken; `done` holds the characters before, the
last one first. Bytes that are not UTF-8 are reported when the string is closed. With them `bad`
counts the bytes that the contents have from the first of them on, an escape counting as the bytes
of its character; the position lies as many bytes before the end of the string. -/
def readString (bound : Nat) (text : List UInt8) (fits : text.length ≤ bound) (done : List Char)
    (bad : Option Nat) : Except ReadError (Parsed String bound) :=
  match text with
  | [] => .error (.before .stringCut [])
  | b :: rest =>
    if b = 0x22 then
      match bad with
      | some count => .error ⟨.notUnicode, rest.length + count⟩
      | none => .ok ⟨String.ofList done.reverse, rest, by simp only [List.length_cons] at fits; omega⟩
    else if b = 0x5C then
      match readEscape rest with
      | .error error => .error error
      | .ok char =>
        readString bound char.rest
          (by have := char.shorter; simp only [List.length_cons] at fits; omega)
          (char.value :: done) (bad.map (· + char.value.utf8Size))
    else if b < 0x20 then .error (.before .controlCharacter rest)
    else
      match found : Utf8.decode? (b :: rest) with
      | some (c, after) =>
        readString bound after (by have := Utf8.length_lt_of_decode? found; omega) (c :: done)
          (bad.map (· + c.utf8Size))
      | none =>
        readString bound rest (by simp only [List.length_cons] at fits; omega) done
          (some (bad.getD 0 + 1))
termination_by text.length
decreasing_by
  · have := char.shorter
    simp only [List.length_cons]
    omega
  · exact Utf8.length_lt_of_decode? found
  · simp

/-! ## Values -/

/-- Reads the letters of a word, its first one taken. -/
def readWord : List UInt8 → List UInt8 → Except ReadError (List UInt8)
  | [], text => .ok text
  | _ :: _, [] => .error (.before .valueCut [])
  | letter :: letters, b :: rest =>
    if b = letter then readWord letters rest else .error (.before .wordExpected rest)

theorem length_le_of_readWord {letters text rest : List UInt8}
    (h : readWord letters text = .ok rest) : rest.length ≤ text.length := by
  induction letters generalizing text with
  | nil => simp_all [readWord]
  | cons letter letters ih =>
    cases text with
    | nil => simp [readWord] at h
    | cons b text =>
      simp only [readWord] at h
      split at h
      · have := ih h
        simp only [List.length_cons]
        omega
      · simp at h

/-- Reads a number, its minus sign taken. -/
def readNumber (negative : Bool) (text : List UInt8) :
    Except ReadError (Parsed Json text.length) :=
  match found : readNumberText text with
  | .error error => .error error
  | .ok (written, rest) =>
    match written.value negative with
    | .ok value => .ok ⟨.number value, rest, length_lt_of_readNumberText found⟩
    | .error unread => .error (.before .numberTooLarge (unread ++ rest))

/-- Reads a word, its first letter taken. -/
def readConstant (letters : List UInt8) (value : Json) (text : List UInt8) :
    Except ReadError (Parsed Json (text.length + 1)) :=
  match found : readWord letters text with
  | .error error => .error error
  | .ok rest => .ok ⟨value, rest, by have := length_le_of_readWord found; omega⟩

/-- Reads the name of a member and the colon after it, the opening quote taken. -/
def readName (text : List UInt8) : Except ReadError (Parsed String text.length) := do
  let name ← readString text.length text (Nat.le_refl _) [] none
  match found : skipBlanks name.rest with
  | [] => .error (.before .objectCut [])
  | b :: rest =>
    if b = 0x3A then
      .ok ⟨name.value, rest, by
        have := name.shorter
        have := length_skipBlanks_le name.rest
        simp only [found, List.length_cons] at this
        omega⟩
    else .error (.upon .colonExpected (b :: rest))

/-- A reading with a larger bound. -/
def Parsed.widen {α : Type} {small large : Nat} (p : Parsed α small) (h : small ≤ large) :
    Parsed α large :=
  ⟨p.value, p.rest, Nat.lt_of_lt_of_le p.shorter h⟩

mutual

/-- Reads a value and the blanks before it. Arrays and objects may be nested `depth` deep. -/
def readValue (depth : Nat) (text : List UInt8) : Except ReadError (Parsed Json text.length) :=
  match found : skipBlanks text with
  | [] => .error (.before .valueCut [])
  | b :: rest =>
    have fits : rest.length < text.length := by
      have := length_skipBlanks_le text
      simp only [found, List.length_cons] at this
      omega
    if b = 0x22 then do
      let string ← readString rest.length rest (Nat.le_refl _) [] none
      return ⟨.string string.value, string.rest, Nat.lt_trans string.shorter fits⟩
    else if b = 0x2D then (·.widen (Nat.le_of_lt fits)) <$> readNumber true rest
    else if isDigit b then
      (·.widen (by simp only [List.length_cons]; omega)) <$> readNumber false (b :: rest)
    else if b = 0x6E then (·.widen fits) <$> readConstant [0x75, 0x6C, 0x6C] .null rest
    else if b = 0x74 then (·.widen fits) <$> readConstant [0x72, 0x75, 0x65] (.boolean true) rest
    else if b = 0x66 then
      (·.widen fits) <$> readConstant [0x61, 0x6C, 0x73, 0x65] (.boolean false) rest
    else if b = 0x5B then
      match depth with
      | 0 => .error (.upon .tooDeep (b :: rest))
      | depth + 1 =>
        match start : skipBlanks rest with
        | [] => .error (.before .arrayCut [])
        | c :: after =>
          have inner : (c :: after).length < text.length := by
            have := length_skipBlanks_le rest
            rw [start] at this
            omega
          if c = 0x5D then
            .ok ⟨.array [], after, by simp only [List.length_cons] at inner; omega⟩
          else readItems depth text.length (c :: after) inner []
    else if b = 0x7B then
      match depth with
      | 0 => .error (.upon .tooDeep (b :: rest))
      | depth + 1 =>
        match start : skipBlanks rest with
        | [] => .error (.before .objectCut [])
        | c :: after =>
          have inner : after.length < text.length := by
            have := length_skipBlanks_le rest
            simp only [start, List.length_cons] at this
            omega
          if c = 0x7D then .ok ⟨.object [], after, inner⟩
          else if c = 0x22 then readMembers depth text.length after inner []
          else .error (.upon .keyExpected (c :: after))
    else .error (.upon .valueExpected (b :: rest))
termination_by (text.length, 0)

/-- Reads the items of an array from the next one on; `done` holds those before, the last one
first. -/
def readItems (depth bound : Nat) (text : List UInt8) (fits : text.length < bound)
    (done : List Json) : Except ReadError (Parsed Json bound) :=
  match readValue depth text with
  | .error error => .error error
  | .ok item =>
    have shorter := item.shorter
    match found : skipBlanks item.rest with
    | [] => .error (.before .arrayCut [])
    | b :: rest =>
      have left : rest.length < item.rest.length := by
        have := length_skipBlanks_le item.rest
        simp only [found, List.length_cons] at this
        omega
      if b = 0x5D then .ok ⟨.array (item.value :: done).reverse, rest, by omega⟩
      else if b = 0x2C then
        match start : skipBlanks rest with
        | [] => .error (.before .valueCut [])
        | c :: after =>
          have inner : after.length < rest.length := by
            have := length_skipBlanks_le rest
            simp only [start, List.length_cons] at this
            omega
          if c = 0x5D then .error (.upon .trailingComma (c :: after))
          else
            readItems depth bound (c :: after) (by simp only [List.length_cons]; omega)
              (item.value :: done)
      else .error (.upon .commaOrBracketExpected (b :: rest))
termination_by (text.length, 1)

/-- Reads the members of an object from the next one on, the opening quote of its name taken;
`done` holds those before. -/
def readMembers (depth bound : Nat) (text : List UInt8) (fits : text.length < bound)
    (done : Object) : Except ReadError (Parsed Json bound) :=
  match readName text with
  | .error error => .error error
  | .ok name =>
    have named := name.shorter
    match readValue depth name.rest with
    | .error error => .error error
    | .ok value =>
      have shorter := value.shorter
      let members := Members.put done name.value value.value
      match found : skipBlanks value.rest with
      | [] => .error (.before .objectCut [])
      | b :: rest =>
        have left : rest.length < value.rest.length := by
          have := length_skipBlanks_le value.rest
          simp only [found, List.length_cons] at this
          omega
        if b = 0x7D then .ok ⟨.object members, rest, by omega⟩
        else if b = 0x2C then
          match start : skipBlanks rest with
          | [] => .error (.before .valueCut [])
          | c :: after =>
            have inner : after.length < rest.length := by
              have := length_skipBlanks_le rest
              simp only [start, List.length_cons] at this
              omega
            if c = 0x22 then readMembers depth bound after (by omega) members
            else if c = 0x7D then .error (.upon .trailingComma (c :: after))
            else .error (.upon .keyExpected (c :: after))
        else .error (.upon .commaOrBraceExpected (b :: rest))
termination_by (text.length, 1)

end

def depthLimit : Nat := 127

/-- Reads a whole text as one value whose arrays and objects are nested at most `depth` deep. -/
def readWithin (depth : Nat) (text : List UInt8) : Except ReadError Json := do
  let value ← readValue depth text
  match skipBlanks value.rest with
  | [] => return value.value
  | rest => .error (.upon .trailingText rest)

/-- Reads a whole text as one value. -/
def read (text : List UInt8) : Except ReadError Json := readWithin depthLimit text

/-- Reads a whole text as one value; a failure is given in words. -/
def parse (text : List UInt8) : Except String Json :=
  (read text).mapError (·.message text)

end ToolGateway.Json
