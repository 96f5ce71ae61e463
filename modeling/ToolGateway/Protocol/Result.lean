import ToolGateway.Json.Document

/-!
# Results

What the results of the methods of the protocol are made of.
-/

namespace ToolGateway

/-- A block of a tool's output. -/
inductive Content where
  | text (text : String)
deriving DecidableEq, Inhabited

namespace Content

def toJson : Content → Json
  | text value => .object [("type", .string "text"), ("text", .string value)]

/-- The fields of a text block, its type already read. -/
def textFields (fields : Fields Json) : Reading Content :=
  Content.text <$> fields.required "text" Decoder.string

def checkType (value : Json) : Except DecodeError Unit :=
  match value with
  | .string name => Decoder.variantNamed [("text", ())] name
  | other => Decoder.refuse "variant identifier" other

/-- A block is a map with its type among its members, or a sequence with its type in front. -/
def decode : Decoder Json Content := fun value =>
  match value with
  | .object members => do
    match Members.find? members "type" with
    | none => .error (.missingField "type")
    | some type =>
      checkType type
      (textFields (.named (members.filter (·.1 != "type")))).result
  | .array [] => .error (.missingField "type")
  | .array (type :: items) => do
    checkType type
    let content ←
      (textFields (.listed ["text"] (sequenceForm "struct variant Content::Text" 1) items)).result
    if 1 < items.length then
      .error (.wrongLength items.length "1 element in sequence")
    else return content
  | other => Decoder.refuse "internally tagged enum Content" other

end Content

/-- The result of a tool call. -/
structure CallResult where
  content : List Content
  isError : Bool
deriving DecidableEq, Inhabited

namespace CallResult

def success (content : List Content) : CallResult := ⟨content, false⟩

/-- A failed call: one block with the failure in words. -/
def failure (text : String) : CallResult := ⟨[.text text], true⟩

def toJson (result : CallResult) : Json :=
  .object [("content", .array (result.content.map Content.toJson)),
    ("isError", .boolean result.isError)]

def decode : Decoder Json CallResult :=
  Decoder.record "CallToolResult" ["content", "isError"] .ignored fun fields =>
    CallResult.mk <$> fields.required "content" (Decoder.list Content.decode)
      <*> fields.withDefault "isError" Decoder.boolean false

end CallResult

/-- A resource as clients see it in a listing. -/
structure ResourceInfo where
  uri : String
  name : String
  description : String
  mimeType : String
deriving DecidableEq, Inhabited

namespace ResourceInfo

def toJson (info : ResourceInfo) : Json :=
  .object [("uri", .string info.uri), ("name", .string info.name),
    ("description", .string info.description), ("mimeType", .string info.mimeType)]

def decode : Decoder Json ResourceInfo :=
  Decoder.record "ResourceInfo" ["uri", "name", "description", "mimeType"] .ignored fun fields =>
    ResourceInfo.mk <$> fields.required "uri" Decoder.string
      <*> fields.required "name" Decoder.string
      <*> fields.required "description" Decoder.string
      <*> fields.required "mimeType" Decoder.string

end ResourceInfo

end ToolGateway
