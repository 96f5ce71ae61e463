import ToolGateway.Decode.Decoder

/-!
# Decoding records

A record is given as a map from its field names to values, or as a sequence of its fields in the
order of their declaration. The members of a map are judged in the order in which they stand, so the
earliest refused member decides; only when none is refused does a missing field count, and then the
one declared first.
-/

namespace ToolGateway

/-- What reading some fields of a record has come to. -/
inductive Reading (β : Type) where
  | value (result : β)
  | missing (field : String)
  | refused (position : Nat) (error : DecodeError)

namespace Reading

variable {β γ : Type}

/-- Two readings of one record: the refusal that stands first, else the missing field declared
first. -/
def both : Reading (β → γ) → Reading β → Reading γ
  | value f, value x => value (f x)
  | value _, missing field => missing field
  | value _, refused position error => refused position error
  | missing _, refused position error => refused position error
  | missing field, _ => missing field
  | refused position error, refused position' error' =>
    if position' < position then refused position' error' else refused position error
  | refused position error, _ => refused position error

instance : Applicative Reading where
  pure := value
  seq f x := f.both (x ())

/-- The value read, or the error that decides. -/
def result : Reading β → Except DecodeError β
  | value result => .ok result
  | missing field => .error (.missingField field)
  | refused _ error => .error error

/-- The reading of one field that stands at a position. -/
def ofField (position : Nat) : Except DecodeError β → Reading β
  | .ok result => value result
  | .error error => refused position error

end Reading

/-- The fields of a record as they are given. -/
inductive Fields (α : Type) where
  | named (members : Members α)
  /-- The items, in the order of the names. A record that lacks one is refused as not having the
  expected length. -/
  | listed (names : List String) (expected : String) (items : List α)

namespace Fields

variable {α β : Type}

/-- The value of a field and the position at which it stands; the position alone if it is absent
from a sequence. -/
def locate (name : String) : Fields α → Option Nat × Option α
  | named members =>
    (members.findIdx? fun member => member.1 == name, Members.find? members name)
  | listed names _ items =>
    let position := names.idxOf name
    (some position, items[position]?)

/-- Reads a field that may be absent only with the given outcome. -/
def readOr (fields : Fields α) (name : String) (decode : Decoder α β)
    (absent : Reading β) : Reading β :=
  match fields.locate name with
  | (position, some value) => .ofField (position.getD 0) (decode value)
  | (_, none) => absent

/-- The refusal of a record for a field that is absent and has no default. -/
def lacking (fields : Fields α) (name : String) : Reading β :=
  match fields with
  | named _ => .missing name
  | listed names expected _ =>
    let position := names.idxOf name
    .refused position (.wrongLength position expected)

def required (fields : Fields α) (name : String) (decode : Decoder α β) : Reading β :=
  fields.readOr name decode (fields.lacking name)

def withDefault (fields : Fields α) (name : String) (decode : Decoder α β) (absent : β) :
    Reading β :=
  fields.readOr name decode (.value absent)

/-- A field that may be absent from a map but not from a sequence. -/
def nullable [Document α] (fields : Fields α) (name : String) (decode : Decoder α β) :
    Reading (Option β) :=
  fields.readOr name (Decoder.optional decode) <|
    match fields with
    | named _ => .value none
    | listed .. => fields.lacking name

/-- Refuses the first member whose name is not a field. -/
def onlyKnown (known : List String) (members : Members α) : Reading Unit :=
  match members.findIdx? fun member => !known.contains member.1 with
  | none => .value ()
  | some position =>
    .refused position (.unknownField ((members[position]?.map Prod.fst).getD "") known)

/-- Refuses a sequence with more items than fields, in formats that do. -/
def noSurplus [Document α] (known : List String) (items : List α) : Reading Unit :=
  if Document.refusesSurplus α ∧ known.length < items.length then
    .refused known.length (.wrongLength items.length "fewer elements in array")
  else .value ()

end Fields

def sequenceForm (name : String) (count : Nat) : String :=
  name ++ " with " ++ toString count ++ (if count = 1 then " element" else " elements")

/-- Whether a record may have members that are no fields. -/
inductive Extras where
  | ignored
  | refused
deriving DecidableEq, Inhabited

/-- Decodes a record whose fields are declared in the order `names`. -/
def Decoder.record {α β : Type} [Document α] (name : String) (names : List String)
    (extras : Extras) (read : Fields α → Reading β) : Decoder α β := fun value =>
  let form := "struct " ++ name
  match Document.shape value with
  | .map members =>
    let rest := match extras with
      | .ignored => pure ()
      | .refused => Fields.onlyKnown names members
    (read (.named members) <* rest).result
  | .sequence items =>
    (read (.listed names (sequenceForm form names.length) items) <* Fields.noSurplus names items).result
  | _ => refuse form value

end ToolGateway
