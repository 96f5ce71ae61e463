import ToolGateway.Proofs.Session.Lines

/-!
# Whole sessions

What a session writes is settled line by line. `Answered` says what one line gets and which state it
leaves: nothing for a line of padding and for a notification, and one line of compact JSON for
everything else. `Replies` chains this over the lines, each of them answered in the state that the
lines before it leave.

* `serve_eq_respondAll`: reading byte by byte gives what answering the lines in order gives.
* `serve_eq_iff_replies`: a session over any stream ends, and its output and final state are exactly
  those that `Replies` allows for the lines of the stream.

Nothing is assumed of the server: its catalogs are any, and its backend may refuse calls, be out of
reach or break off.
-/

namespace ToolGateway.Session

variable {σ : Type}

/-! ## One line -/

/-- What a line gets in a state, in bytes, and the state it leaves. -/
inductive Answered (server : Server σ) (line : List UInt8) (state : ServerState σ) :
    List UInt8 → ServerState σ → Prop where
  /-- A line of padding alone. -/
  | blank (padding : Stripped line []) : Answered server line state [] state
  /-- A request without an id. -/
  | silent {content : List UInt8} {request : Request} (stripped : Stripped line content)
      (filled : content ≠ []) (accepted : Request.ofBytes content = .ok request)
      (unnumbered : request.id = none) : Answered server line state [] state
  /-- No request: the reply is the rejection. -/
  | rejected {content : List UInt8} {rejection : Response} (stripped : Stripped line content)
      (filled : content ≠ []) (refused : Request.ofBytes content = .error rejection) :
      Answered server line state (Utf8.bytes rejection.toJson.compact ++ [lineFeed]) state
  /-- A request with an id: the reply is the server's answer. -/
  | answered {content : List UInt8} {request : Request} {id : Json} {response : Response}
      {next : ServerState σ} (stripped : Stripped line content) (filled : content ≠ [])
      (accepted : Request.ofBytes content = .ok request) (numbered : request.id = some id)
      (handled : server.handle request state = (some response, next)) :
      Answered server line state (Utf8.bytes response.toJson.compact ++ [lineFeed]) next

theorem handle_notification (server : Server σ) {request : Request} (unnumbered : request.id = none)
    (state : ServerState σ) : server.handle request state = (none, state) := by
  simp [Server.handle, Request.isNotification, unnumbered]

/-- A request with an id is always answered. -/
theorem exists_handle (server : Server σ) {request : Request} {id : Json}
    (numbered : request.id = some id) (state : ServerState σ) :
    ∃ response next, server.handle request state = (some response, next) := by
  unfold Server.handle
  rw [if_neg (by simp [Request.isNotification, numbered])]
  rcases server.answer request state with ⟨error | result, next⟩
  · exact ⟨_, _, rfl⟩
  · exact ⟨_, _, rfl⟩

/-- The bytes of the reply to a line, none if it gets no reply. -/
def answerBytes (reply : Option Response) : List UInt8 := reply.toList.flatMap replyBytes

theorem answered_respond (server : Server σ) (line : List UInt8) (state : ServerState σ) :
    Answered server line state (answerBytes (respond server line state).1)
      (respond server line state).2 := by
  have stripped := stripped_trim line
  unfold respond
  by_cases filled : trim line = []
  · rw [filled] at stripped
    simp only [filled, List.isEmpty_nil, if_true]
    exact .blank stripped
  · simp only [List.isEmpty_iff, filled, if_false]
    cases read : Request.ofBytes (trim line) with
    | error rejection =>
      simpa [answerBytes, replyBytes] using Answered.rejected stripped filled read
    | ok request =>
      cases number : request.id with
      | none =>
        simp only [handle_notification server number]
        exact .silent stripped filled read number
      | some id =>
        obtain ⟨response, next, handled⟩ := exists_handle server number state
        simp only [handled]
        simpa [answerBytes, replyBytes] using Answered.answered stripped filled read number handled

/-- A line settles its reply and the state it leaves. -/
theorem respond_of_answered {server : Server σ} {line : List UInt8} {state next : ServerState σ}
    {bytes : List UInt8} (h : Answered server line state bytes next) :
    bytes = answerBytes (respond server line state).1 ∧ next = (respond server line state).2 := by
  unfold respond
  cases h with
  | blank padding => simp [← stripped_iff.mp padding, answerBytes]
  | silent stripped filled accepted unnumbered =>
    rw [stripped_iff.mp stripped] at filled accepted
    simp [filled, accepted, handle_notification server unnumbered, answerBytes]
  | rejected stripped filled refused =>
    rw [stripped_iff.mp stripped] at filled refused
    simp [filled, refused, answerBytes, replyBytes]
  | answered stripped filled accepted numbered handled =>
    rw [stripped_iff.mp stripped] at filled accepted
    simp [filled, accepted, handled, answerBytes, replyBytes]

/-! ## Line after line -/

/-- What lines get one after the other, in bytes, and the state they leave. -/
inductive Replies (server : Server σ) :
    List (List UInt8) → ServerState σ → List UInt8 → ServerState σ → Prop where
  | none {state : ServerState σ} : Replies server [] state [] state
  | next {line : List UInt8} {lines : List (List UInt8)} {state between final : ServerState σ}
      {reply output : List UInt8} (first : Answered server line state reply between)
      (others : Replies server lines between output final) :
      Replies server (line :: lines) state (reply ++ output) final

theorem replies_iff {server : Server σ} {lines : List (List UInt8)} {state final : ServerState σ}
    {output : List UInt8} : Replies server lines state output final ↔
      output = (respondAll server lines state).1.flatMap replyBytes ∧
        final = (respondAll server lines state).2 := by
  constructor
  · intro h
    induction h with
    | none => exact ⟨rfl, rfl⟩
    | next first _ ih =>
      obtain ⟨rfl, rfl⟩ := respond_of_answered first
      obtain ⟨rfl, rfl⟩ := ih
      simp [respondAll, answerBytes]
  · rintro ⟨rfl, rfl⟩
    induction lines generalizing state with
    | nil => exact .none
    | cons line lines ih =>
      simp only [respondAll, List.flatMap_append]
      exact .next (answered_respond server line state) ih

/-! ## Byte after byte -/

/-- Bytes without a line feed only lengthen the line that is being read. -/
theorem feedAll_append {line : List UInt8} (whole : lineFeed ∉ line) (server : Server σ)
    (text : List UInt8) (done : List Response) (session : Session σ) :
    feedAll server (line ++ text) done session =
      feedAll server text done { session with line := line.reverse ++ session.line } := by
  induction line generalizing session with
  | nil => rfl
  | cons b line ih =>
    have different := List.ne_of_not_mem_cons whole
    have rest := List.not_mem_of_not_mem_cons whole
    rw [List.cons_append, feedAll, feed, if_neg (Ne.symm different)]
    simp [ih rest]

/-- The responses given before only stand behind those that come. -/
theorem feedAll_done (server : Server σ) (text : List UInt8) (done : List Response)
    (session : Session σ) :
    feedAll server text done session =
      ((feedAll server text [] session).1 ++ done, (feedAll server text [] session).2) := by
  induction text generalizing done session with
  | nil => rfl
  | cons b rest ih =>
    simp only [feedAll]
    -- both runs go on from the same session, with and without the earlier responses
    rw [ih ((feed server session b).1.toList ++ done), ih ((feed server session b).1.toList ++ [])]
    simp

theorem reverse_toList (reply : Option Response) : reply.toList.reverse = reply.toList := by
  cases reply <;> rfl

theorem serve_nil (server : Server σ) (state : ServerState σ) : serve server [] state = ([], state) := by
  simp [serve, feedAll, start, endLine, respond, trim]

/-- A session whose stream ends within a line. -/
theorem serve_last {line : List UInt8} (whole : lineFeed ∉ line) (server : Server σ)
    (state : ServerState σ) : serve server line state =
      (answerBytes (respond server line state).1, (respond server line state).2) := by
  have fed : feedAll server line [] (start state) = ([], ⟨line.reverse, state⟩) := by
    simpa [feedAll, start] using feedAll_append whole server [] [] (start state)
  rw [serve, fed]
  simp [endLine, answerBytes, reverse_toList]

/-- A session after its first line feed goes on like one that begins there. -/
theorem serve_ended {line : List UInt8} (whole : lineFeed ∉ line) (server : Server σ)
    (rest : List UInt8) (state : ServerState σ) : serve server (line ++ lineFeed :: rest) state =
      (answerBytes (respond server line state).1
          ++ (serve server rest (respond server line state).2).1,
        (serve server rest (respond server line state).2).2) := by
  simp only [serve, feedAll_append whole, feedAll, feed, if_true, endLine, start]
  rw [feedAll_done]
  simp [answerBytes, reverse_toList]

/-- Reading byte by byte gives what answering the lines in order gives. -/
theorem serve_eq_respondAll (server : Server σ) (input : List UInt8) (state : ServerState σ) :
    serve server input state = ((respondAll server (lines input) state).1.flatMap replyBytes,
      (respondAll server (lines input) state).2) := by
  -- the induction is on how the stream is cut, so a step takes a whole line and its line feed
  have cut := linesOf_lines input
  revert cut
  generalize lines input = found
  intro cut
  induction cut generalizing state with
  | none => exact serve_nil server state
  | last _ whole =>
    rw [serve_last whole]
    simp [respondAll, answerBytes]
  | ended whole _ ih =>
    rw [serve_ended whole, ih]
    simp [respondAll, answerBytes]

/-- **The law of whole sessions.** A session over any stream ends, and what it writes is the
concatenation, in the order of the lines, of what each line gets in the state that the lines before
it leave. -/
theorem serve_eq_iff_replies (server : Server σ) (input output : List UInt8)
    (state final : ServerState σ) :
    serve server input state = (output, final) ↔
      ∃ lines, LinesOf input lines ∧ Replies server lines state output final := by
  rw [serve_eq_respondAll, Prod.mk.injEq]
  constructor
  · rintro ⟨written, ended⟩
    exact ⟨lines input, linesOf_lines input, replies_iff.mpr ⟨written.symm, ended.symm⟩⟩
  · rintro ⟨found, cut, replies⟩
    rw [linesOf_iff.mp cut] at replies
    obtain ⟨written, ended⟩ := replies_iff.mp replies
    exact ⟨written.symm, ended.symm⟩

end ToolGateway.Session
