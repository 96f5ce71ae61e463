/-!
# Resource URIs

A resource URI is a scheme and a type token with `://` between them. The last separator counts, so
the token holds none; a URI without one is the token itself.
-/

namespace ToolGateway

/-- A resource URI in its two parts. -/
structure ResourceUri where
  scheme : Option String
  typeToken : String
deriving DecidableEq, Inhabited

namespace ResourceUri

def separator : List Char := [':', '/', '/']

/-- The parts before and after the last separator. -/
def splitLast? : List Char → Option (List Char × List Char)
  | [] => none
  | c :: rest =>
    match splitLast? rest with
    | some (before, after) => some (c :: before, after)
    | none =>
      if separator.isPrefixOf (c :: rest) then some ([], (c :: rest).drop separator.length) else none

def parse (uri : String) : ResourceUri :=
  match splitLast? uri.toList with
  | some (before, after) => ⟨some (String.ofList before), String.ofList after⟩
  | none => ⟨none, uri⟩

end ResourceUri

end ToolGateway
