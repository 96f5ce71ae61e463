import ToolGateway.Text.Utf8

/-!
# Endpoints

The address of a remote place is a URI: a scheme with a host and an optional path, a host alone, or a
path alone. Only the form is checked; nothing is looked up.
-/

namespace ToolGateway.Endpoint

def lengthLimit : Nat := 65534

def schemeLimit : Nat := 64

/-- How many colons may stand in an address without brackets. -/
def colonLimit : Nat := 8

/-- Whether a byte is one of the characters of a text. -/
def isOneOf (characters : String) (b : UInt8) : Bool := (Utf8.bytes characters).contains b

def isLetterOrDigit (b : UInt8) : Bool :=
  (0x30 ≤ b && b ≤ 0x39) || (0x41 ≤ b && b ≤ 0x5A) || (0x61 ≤ b && b ≤ 0x7A)

def isSchemeByte (b : UInt8) : Bool := isLetterOrDigit b || isOneOf "+-.~" b

def endsHost (b : UInt8) : Bool := isOneOf "/?#" b

/-- A byte of a host other than the percent sign. -/
def isHostByte (b : UInt8) : Bool := isLetterOrDigit b || isOneOf "!$&\x27()*+,-.:;=@[]_~" b

def isPathByte (b : UInt8) : Bool :=
  b == 0x21 || (0x24 ≤ b && b ≤ 0x3B) || b == 0x3D || (0x40 ≤ b && b ≤ 0x5F)
    || (0x61 ≤ b && b ≤ 0x7A) || b == 0x7C || b == 0x7E || isOneOf "\"\x7b\x7d" b

def isQueryByte (b : UInt8) : Bool :=
  b == 0x21 || (0x24 ≤ b && b ≤ 0x3B) || b == 0x3D || (0x3F ≤ b && b ≤ 0x7E)

/-- Whether a text is a query up to its fragment, which may be anything. -/
def isQuery : List UInt8 → Bool
  | [] => true
  | b :: rest => b == 0x23 || (isQueryByte b && isQuery rest)

/-- Whether a text is a path with an optional query and fragment. -/
def isPath : List UInt8 → Bool
  | [] => true
  | b :: rest =>
    if b == 0x3F then isQuery rest else b == 0x23 || (isPathByte b && isPath rest)

/-- What has been seen of a host. -/
structure HostScan where
  colons : Nat
  opened : Bool
  closed : Bool
  percent : Bool
  endsInAt : Bool
deriving DecidableEq, Inhabited

namespace HostScan

/-- The state before the first byte. -/
def start : HostScan := ⟨0, false, false, false, false⟩

/-- Takes one more byte. A percent sign may only stand in the user part or between the brackets, and
one pair of brackets may enclose an address. -/
def step (scan : HostScan) (b : UInt8) : Option HostScan :=
  let scan := { scan with endsInAt := b == 0x40 }
  if b = 0x3A then
    if scan.colons < colonLimit then some { scan with colons := scan.colons + 1 } else none
  else if b = 0x5B then
    if scan.percent || scan.opened then none else some { scan with opened := true }
  else if b = 0x5D then
    if !scan.opened || scan.closed then none
    else some { scan with closed := true, colons := 0, percent := false }
  else if b = 0x40 then some { scan with colons := 0, percent := false }
  else if b = 0x25 then some { scan with percent := true }
  else if isHostByte b then some scan
  else none

def mayEnd (scan : HostScan) : Bool :=
  scan.opened == scan.closed && scan.colons ≤ 1 && !scan.endsInAt && !scan.percent

end HostScan

/-- Whether a text is a host with an optional user and port. -/
def isHost (text : List UInt8) : Bool :=
  match text.foldlM HostScan.step .start with
  | some scan => scan.mayEnd
  | none => false

/-- What follows the scheme, if there is one. -/
def afterScheme? (text : List UInt8) : Option (List UInt8) :=
  let scheme := text.takeWhile isSchemeByte
  match text.drop scheme.length with
  | 0x3A :: 0x2F :: 0x2F :: rest => some rest
  | _ => none

/-- Whether a text is an endpoint. -/
def isValid (endpoint : String) : Bool :=
  let text := Utf8.bytes endpoint
  if lengthLimit < text.length then false
  else
    match text with
    | [] => false
    | [0x2F] | [0x2A] => true
    | 0x2F :: _ => isPath text
    | _ =>
      match afterScheme? text with
      | none => isHost text
      | some rest =>
        let host := rest.takeWhile (!endsHost ·)
        (text.takeWhile isSchemeByte).length ≤ schemeLimit && !host.isEmpty && isHost host
          && isPath (rest.drop host.length)

end ToolGateway.Endpoint
