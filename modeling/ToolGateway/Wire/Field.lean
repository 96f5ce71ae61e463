import ToolGateway.Number.Word
import ToolGateway.Text.Utf8
import ToolGateway.Wire.Varint

/-!
# Fields of binary messages

A binary message is a sequence of fields, each with a number and a value in one of five forms. Only
numbers and byte strings carry data for the messages of this library; fixed-width values and groups
are read to know where they end.
-/

namespace ToolGateway

/-- The form in which a value is written. -/
inductive WireForm where
  | varint
  | fixed64
  | bytes
  | groupStart
  | groupEnd
  | fixed32
deriving DecidableEq, Inhabited

namespace WireForm

def code : WireForm → Nat
  | varint => 0
  | fixed64 => 1
  | bytes => 2
  | groupStart => 3
  | groupEnd => 4
  | fixed32 => 5

def ofCode? (code : Nat) : Option WireForm :=
  [varint, fixed64, bytes, groupStart, groupEnd, fixed32][code]?

end WireForm

/-- The value of a field. -/
inductive WireValue where
  | varint (value : Nat)
  | bytes (content : List UInt8)
  /-- A fixed-width value or a group, which no message of this library declares. -/
  | other
deriving DecidableEq, Inhabited

/-- A field of a message. -/
structure WireField where
  number : Nat
  value : WireValue
deriving DecidableEq, Inhabited

namespace WireValue

def string? : WireValue → Option String
  | bytes content => Utf8.string? content
  | _ => none

/-- The signed number of 32 bits a value holds; higher bits are dropped. -/
def int32? : WireValue → Option Int32
  | varint value => some (Int32.ofNat value)
  | _ => none

end WireValue

namespace Wire

/-! ## Writing -/

def fieldKey (number : Nat) (form : WireForm) : List UInt8 := varint (number * 8 + form.code)

def varintField (number value : Nat) : List UInt8 := fieldKey number .varint ++ varint value

def bytesField (number : Nat) (content : List UInt8) : List UInt8 :=
  fieldKey number .bytes ++ varint content.length ++ content

def stringField (number : Nat) (value : String) : List UInt8 :=
  bytesField number (Utf8.bytes value)

/-- A string field that is left out when it is empty. -/
def plainField (number : Nat) (value : String) : List UInt8 :=
  if value.isEmpty then [] else stringField number value

/-- A string field that is left out when it is absent. -/
def optionalField (number : Nat) (value : Option String) : List UInt8 :=
  (value.map (stringField number)).getD []

def repeatedField (number : Nat) (values : List String) : List UInt8 :=
  values.flatMap (stringField number)

/-! ## Reading -/

/-- What is left of a text after something has been read from its front. -/
abbrev Remaining (text : List UInt8) := { rest : List UInt8 // rest.length ≤ text.length }

/-- Takes the number and the form in front of a value. The key has at most 32 bits, and no field has
the number zero. -/
def readKey? (text : List UInt8) :
    Option (Nat × WireForm × { rest : List UInt8 // rest.length < text.length }) :=
  match found : readVarint? text with
  | none => none
  | some (key, rest) =>
    match WireForm.ofCode? (key % 8) with
    | none => none
    | some form =>
      if key < wordCount32 ∧ 0 < key / 8 then
        some (key / 8, form, ⟨rest, length_lt_of_readVarint? found⟩)
      else none

/-- Takes `count` bytes. -/
def takeBytes? (count : Nat) (text : List UInt8) : Option (List UInt8 × Remaining text) :=
  if count ≤ text.length then
    some (text.take count, ⟨text.drop count, by simp⟩)
  else none

def takeVarint? (text : List UInt8) : Option (Nat × Remaining text) :=
  match found : readVarint? text with
  | none => none
  | some (value, rest) => some (value, ⟨rest, Nat.le_of_lt (length_lt_of_readVarint? found)⟩)

/-- Takes a byte string: its length, then its bytes. -/
def takeSized? (text : List UInt8) : Option (List UInt8 × Remaining text) := do
  let (count, ⟨rest, le⟩) ← takeVarint? text
  let (content, ⟨rest', le'⟩) ← takeBytes? count rest
  return (content, ⟨rest', Nat.le_trans le' le⟩)

mutual

/-- Takes a value. Groups may be nested at most `depth` deep, and a field of a group needs a level of
its own. -/
def readValue? (number : Nat) (form : WireForm) (depth : Nat) (text : List UInt8) :
    Option (WireValue × Remaining text) :=
  match form with
  | .varint => (takeVarint? text).map fun (value, rest) => (.varint value, rest)
  | .bytes => (takeSized? text).map fun (content, rest) => (.bytes content, rest)
  | .fixed64 => (takeBytes? 8 text).map fun (_, rest) => (.other, rest)
  | .fixed32 => (takeBytes? 4 text).map fun (_, rest) => (.other, rest)
  | .groupStart => (readGroup? number depth text).map fun rest => (.other, rest)
  | .groupEnd => none
termination_by (text.length, 1)

/-- Takes the fields of a group and its end, which has to bear the number of the group. -/
def readGroup? (number depth : Nat) (text : List UInt8) : Option (Remaining text) :=
  match readKey? text with
  | none => none
  | some (inner, form, ⟨rest, shorter⟩) =>
    if form = .groupEnd then
      if inner = number then some ⟨rest, Nat.le_of_lt shorter⟩ else none
    else
      match depth with
      | 0 | 1 => none
      | depth + 1 =>
        match readValue? inner form depth rest with
        | none => none
        | some (_, ⟨after, le⟩) =>
          (readGroup? number (depth + 1) after).map fun ⟨last, le'⟩ => ⟨last, by omega⟩
termination_by (text.length, 0)

end

/-- The fields of a message after those already `done`, of which the last one comes first. -/
def readFieldsFrom? (depth : Nat) (text : List UInt8) (done : List WireField) :
    Option (List WireField) :=
  if text.isEmpty then some done.reverse
  else
    match readKey? text with
    | none => none
    | some (number, form, ⟨rest, _shorter⟩) =>
      match readValue? number form depth rest with
      | none => none
      | some (value, ⟨after, _le⟩) => readFieldsFrom? depth after (⟨number, value⟩ :: done)
termination_by text.length

/-- The fields of a message in the order in which they stand. -/
def readFields? (depth : Nat) (text : List UInt8) : Option (List WireField) :=
  readFieldsFrom? depth text []

def nestingLimit : Nat := 100

end Wire

end ToolGateway
