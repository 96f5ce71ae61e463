import ToolGateway.Server.Basic

/-!
# Sessions

A session takes a byte stream of requests, one a line, and gives the byte stream of the replies, one
a line. Lines end with a line feed, or with the stream; padding around a line does not count, and a
line of padding alone is no request. `Session.feed` takes the stream byte by byte; `Session.lines` and
`Session.respondAll` say the same of a stream that is there as a whole.
-/

namespace ToolGateway

/-- A session in progress. -/
structure Session (σ : Type) where
  /-- The bytes of the line that is being read, the last one first. -/
  line : List UInt8
  state : ServerState σ
deriving Inhabited

namespace Session

def lineFeed : UInt8 := 0x0A

/-- The bytes that do not count around a line: space, tab, line feed, form feed and carriage
return. -/
def isPadding (b : UInt8) : Bool :=
  b == 0x20 || b == 0x09 || b == 0x0A || b == 0x0C || b == 0x0D

def trim (line : List UInt8) : List UInt8 :=
  ((line.dropWhile isPadding).reverse.dropWhile isPadding).reverse

/-- The bytes of a reply: one line of text. -/
def replyBytes (response : Response) : List UInt8 :=
  Utf8.bytes response.toJson.compact ++ [lineFeed]

variable {σ : Type}

/-! ## One line -/

/-- The reply to a line, if it gets one. -/
def respond (server : Server σ) (line : List UInt8) (state : ServerState σ) :
    Option Response × ServerState σ :=
  let line := trim line
  if line.isEmpty then (none, state)
  else
    match Request.ofBytes line with
    | .error rejection => (some rejection, state)
    | .ok request => server.handle request state

/-! ## A stream, byte by byte -/

/-- A session before its first byte. -/
def start (state : ServerState σ) : Session σ := ⟨[], state⟩

def endLine (server : Server σ) (session : Session σ) : Option Response × Session σ :=
  let (response, state) := respond server session.line.reverse session.state
  (response, ⟨[], state⟩)

def feed (server : Server σ) (session : Session σ) (b : UInt8) : Option Response × Session σ :=
  if b = lineFeed then session.endLine server
  else (none, { session with line := b :: session.line })

/-- Takes bytes after those that gave the responses `done`, of which the last one comes first. -/
def feedAll (server : Server σ) :
    List UInt8 → List Response → Session σ → List Response × Session σ
  | [], done, session => (done, session)
  | b :: rest, done, session =>
    let (response, session) := session.feed server b
    feedAll server rest (response.toList ++ done) session

/-- The replies to a stream and the state after it. -/
def serve (server : Server σ) (input : List UInt8) (state : ServerState σ) :
    List UInt8 × ServerState σ :=
  let (done, session) := feedAll server input [] (start state)
  let (last, session) := session.endLine server
  ((last.toList ++ done).reverse.flatMap replyBytes, session.state)

/-! ## A stream as a whole -/

/-- The lines of a text after those already `done`, of which the last one comes first; `current`
holds the bytes of the line that is being read, the last one first. -/
def linesFrom : List UInt8 → List UInt8 → List (List UInt8) → List (List UInt8)
  | [], current, done => if current.isEmpty then done.reverse else (current.reverse :: done).reverse
  | b :: rest, current, done =>
    if b = lineFeed then linesFrom rest [] (current.reverse :: done)
    else linesFrom rest (b :: current) done

/-- The lines of a text, without their line feeds. -/
def lines (text : List UInt8) : List (List UInt8) := linesFrom text [] []

def respondAll (server : Server σ) : List (List UInt8) → ServerState σ →
    List Response × ServerState σ
  | [], state => ([], state)
  | line :: rest, state =>
    let (response, state) := respond server line state
    let (responses, state) := respondAll server rest state
    (response.toList ++ responses, state)

end Session

end ToolGateway
