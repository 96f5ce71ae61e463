import ToolGateway.Proofs.Protocol.RequestText
import ToolGateway.Proofs.Server.Recording

/-!
# Lines without effect

A line is `Idle` when it is padding alone, no request, or a request without an id. Such a line leaves
everything but its own reply as it is: a session with it and a session without it write the same
replies for all other lines, make the same calls of the backend, and end in the same state
(`idle_lines_isolated`).

The same theorem says that padding around a line and carriage returns before line feeds do not count.
All that a session sees of a stream is the `contents` of its lines: what is left of each of them
without its padding, where anything is left.
-/

namespace ToolGateway.Session

variable {σ : Type}

/-! ## Cutting a stream in two -/

/-- A text that a line may follow: it is empty, or its last line has ended. -/
def Closed (text : List UInt8) : Prop := text = [] ∨ ∃ earlier, text = earlier ++ [lineFeed]

/-- The lines of a text, where the part before is closed. -/
theorem lines_append {before : List UInt8} (closed : Closed before) (rest : List UInt8) :
    lines (before ++ rest) = lines before ++ lines rest := by
  have cut := linesOf_lines before
  revert cut
  generalize lines before = found
  intro cut
  induction cut with
  | none => rfl
  | @last line filled whole =>
    -- a last line that has not ended is not closed
    rcases closed with rfl | ⟨earlier, rfl⟩
    · exact absurd rfl filled
    · exact absurd (by simp) whole
  | @ended line after lines whole _ ih =>
    have closed : Closed after := by
      rcases closed with empty | ⟨earlier, same⟩
      · simp at empty
      · rcases List.eq_nil_or_concat after with rfl | ⟨earlier', b, rfl⟩
        · exact .inl rfl
        · have last := congrArg List.getLast? same
          rw [List.concat_eq_append, ← List.cons_append, ← List.append_assoc] at last
          simp only [List.getLast?_append, List.getLast?_singleton, Option.some_or,
            Option.some.injEq] at last
          exact .inr ⟨earlier', by rw [last, List.concat_eq_append]⟩
    rw [List.append_assoc, List.cons_append, lines_ended whole, ih closed, List.cons_append]

theorem respondAll_append (server : Server σ) (first second : List (List UInt8))
    (state : ServerState σ) :
    respondAll server (first ++ second) state =
      ((respondAll server first state).1
          ++ (respondAll server second (respondAll server first state).2).1,
        (respondAll server second (respondAll server first state).2).2) := by
  induction first generalizing state with
  | nil => rfl
  | cons line rest ih => simp only [List.cons_append, respondAll, ih, List.append_assoc]

/-- A session over a closed text and more is a session over the text and then one over the rest. -/
theorem serve_append {before : List UInt8} (closed : Closed before) (server : Server σ)
    (rest : List UInt8) (state : ServerState σ) :
    serve server (before ++ rest) state =
      ((serve server before state).1 ++ (serve server rest (serve server before state).2).1,
        (serve server rest (serve server before state).2).2) := by
  simp only [serve_eq_respondAll, lines_append closed, respondAll_append, List.flatMap_append]

/-- A line in its place: it begins where a line may, and it ends with a line feed or with the
stream. -/
structure Stands (before line ending after : List UInt8) : Prop where
  closed : Closed before
  whole : lineFeed ∉ line
  ends : ending = [lineFeed] ∨ (ending = [] ∧ after = [])

theorem serve_line {before line ending after : List UInt8}
    (stands : Stands before line ending after) (server : Server σ) (state : ServerState σ) :
    serve server (line ++ ending ++ after) state =
      (answerBytes (respond server line state).1
          ++ (serve server after (respond server line state).2).1,
        (serve server after (respond server line state).2).2) := by
  rcases stands.ends with rfl | ⟨rfl, rfl⟩
  · rw [List.append_assoc]
    exact serve_ended stands.whole server after state
  · rw [List.append_nil, List.append_nil, serve_last stands.whole, serve_nil, List.append_nil]

/-! ## What a session sees of a stream -/

theorem trim_padded {front back : List UInt8} (before : ∀ b ∈ front, isPadding b = true)
    (after : ∀ b ∈ back, isPadding b = true) (line : List UInt8) :
    trim (front ++ line ++ back) = trim line := by
  obtain ⟨⟨front', back', same, before', after'⟩, first, last⟩ := stripped_trim line
  refine trim_eq_of_stripped ⟨⟨front ++ front', back' ++ back, ?_, ?_, ?_⟩, first, last⟩
  · conv_lhs => rw [same]
    simp only [List.append_assoc]
  · intro b member
    exact (List.mem_append.mp member).elim (before b) (before' b)
  · intro b member
    exact (List.mem_append.mp member).elim (after' b) (after b)

/-- What is left of a line without its padding, if anything is. -/
def content (line : List UInt8) : List (List UInt8) :=
  if (trim line).isEmpty then [] else [trim line]

/-- What is left of the lines of a text without their padding, where anything is. -/
def contents (text : List UInt8) : List (List UInt8) := (lines text).flatMap content

theorem content_padded {front back : List UInt8} (before : ∀ b ∈ front, isPadding b = true)
    (after : ∀ b ∈ back, isPadding b = true) (line : List UInt8) :
    content (front ++ line ++ back) = content line := by
  rw [content, content, trim_padded before after]

theorem content_padding_append {front : List UInt8} (padding : ∀ b ∈ front, isPadding b = true)
    (line : List UInt8) : content (front ++ line) = content line := by
  have same := content_padded padding (List.forall_mem_nil _) line
  rwa [List.append_nil] at same

theorem content_append_padding {back : List UInt8} (padding : ∀ b ∈ back, isPadding b = true)
    (line : List UInt8) : content (line ++ back) = content line :=
  content_padded (List.forall_mem_nil _) padding line

theorem content_of_padding {line : List UInt8} (padding : ∀ b ∈ line, isPadding b = true) :
    content line = [] := by
  have same := content_padding_append padding []
  rwa [List.append_nil] at same

theorem contents_append {before : List UInt8} (closed : Closed before) (rest : List UInt8) :
    contents (before ++ rest) = contents before ++ contents rest := by
  rw [contents, lines_append closed, List.flatMap_append]
  rfl

theorem contents_ended {line : List UInt8} (whole : lineFeed ∉ line) (rest : List UInt8) :
    contents (line ++ lineFeed :: rest) = content line ++ contents rest := by
  rw [contents, lines_ended whole, List.flatMap_cons]
  rfl

theorem contents_line {line : List UInt8} (whole : lineFeed ∉ line) :
    contents line = content line := by
  by_cases filled : line = []
  · subst filled
    rfl
  · rw [contents, lines_last filled whole, List.flatMap_singleton]

/-- A line is answered by what is left of it without its padding. -/
theorem respond_trim (server : Server σ) (line : List UInt8) (state : ServerState σ) :
    respond server (trim line) state = respond server line state := by
  have same : trim (trim line) = trim line :=
    trim_eq_of_stripped ⟨⟨[], [], by simp, by simp, by simp⟩, (stripped_trim line).first,
      (stripped_trim line).last⟩
  rw [respond, same]
  rfl

theorem respondAll_contents (server : Server σ) (lines : List (List UInt8)) (state : ServerState σ) :
    respondAll server (lines.flatMap content) state = respondAll server lines state := by
  induction lines generalizing state with
  | nil => rfl
  | cons line rest ih =>
    rw [List.flatMap_cons, content]
    split
    next blank =>
      have unanswered : respond server line state = (none, state) := by simp [respond, blank]
      rw [List.nil_append, ih, respondAll, unanswered]
      rfl
    next => simp only [List.singleton_append, respondAll, respond_trim, ih]

/-- A session depends on a stream only through the contents of its lines. -/
theorem serve_congr {text other : List UInt8} (same : contents text = contents other)
    (server : Server σ) (state : ServerState σ) :
    serve server text state = serve server other state := by
  have seen : ∀ text, serve server text state =
      ((respondAll server (contents text) state).1.flatMap replyBytes,
        (respondAll server (contents text) state).2) := by
    intro text
    rw [serve_eq_respondAll, contents, respondAll_contents]
  rw [seen text, seen other, same]

/-! ## Padding -/

/-- Padding where a line may begin leaves the contents alone, line feeds in it as well. -/
theorem contents_padding_append {front : List UInt8} (padding : ∀ b ∈ front, isPadding b = true)
    (rest : List UInt8) : contents (front ++ rest) = contents rest := by
  by_cases feeds : lineFeed ∈ front
  · -- up to its first line feed the padding is a line of its own
    obtain ⟨line, front', cut, whole⟩ := List.eq_append_cons_of_mem feeds
    have : front'.length < front.length := by
      rw [cut, List.length_append, List.length_cons]
      omega
    rw [cut, List.append_assoc, List.cons_append, contents_ended whole,
      content_of_padding fun b member => padding b (by simp [cut, member]), List.nil_append]
    exact contents_padding_append (fun b member => padding b (by simp [cut, member])) rest
  · by_cases ends : lineFeed ∈ rest
    · obtain ⟨line, rest', rfl, whole⟩ := List.eq_append_cons_of_mem ends
      have joined : lineFeed ∉ front ++ line := by simp [feeds, whole]
      rw [← List.append_assoc, contents_ended joined, contents_ended whole,
        content_padding_append padding]
    · have joined : lineFeed ∉ front ++ rest := by simp [feeds, ends]
      rw [contents_line joined, contents_line ends, content_padding_append padding]
termination_by front.length

/-- Padding behind a line leaves the contents alone, line feeds in it as well. -/
theorem contents_append_padding {line ending after back : List UInt8}
    (stands : Stands [] line ending after) (padding : ∀ b ∈ back, isPadding b = true) :
    contents (line ++ back ++ ending ++ after) = contents (line ++ ending ++ after) := by
  -- with its ending the padding is padding again, and it stands where a line may begin once the
  -- line has ended
  have padEnding : ∀ b ∈ ending, isPadding b = true := by
    rcases stands.ends with rfl | ⟨rfl, -⟩
    · simp [isPadding, lineFeed]
    · simp
  have alone : contents (line ++ ending ++ after) = content line ++ contents after := by
    rcases stands.ends with rfl | ⟨rfl, rfl⟩
    · rw [List.append_assoc]
      exact contents_ended stands.whole after
    · rw [List.append_nil, List.append_nil, contents_line stands.whole]
      exact (List.append_nil _).symm
  rw [alone]
  by_cases feeds : lineFeed ∈ back
  · obtain ⟨first, others, rfl, whole⟩ := List.eq_append_cons_of_mem feeds
    have joined : lineFeed ∉ line ++ first := by simp [stands.whole, whole]
    have regrouped : line ++ (first ++ lineFeed :: others) ++ ending ++ after =
        (line ++ first) ++ lineFeed :: ((others ++ ending) ++ after) := by
      simp only [List.append_assoc, List.cons_append]
    have padOthers : ∀ b ∈ others ++ ending, isPadding b = true := by
      intro b member
      exact (List.mem_append.mp member).elim (fun h => padding b (by simp [h])) (padEnding b)
    rw [regrouped, contents_ended joined, contents_padding_append padOthers,
      content_append_padding fun b member => padding b (by simp [member])]
  · have joined : lineFeed ∉ line ++ back := by simp [stands.whole, feeds]
    rcases stands.ends with rfl | ⟨rfl, rfl⟩
    · rw [List.append_assoc, List.singleton_append, contents_ended joined,
        content_append_padding padding]
    · rw [List.append_nil, List.append_nil, contents_line joined, content_append_padding padding]
      exact (List.append_nil _).symm

/-- Padding around a line leaves the contents alone. -/
theorem contents_padded {before line ending after front back : List UInt8}
    (stands : Stands before line ending after) (padFront : ∀ b ∈ front, isPadding b = true)
    (padBack : ∀ b ∈ back, isPadding b = true) :
    contents (before ++ (front ++ line ++ back) ++ ending ++ after) =
      contents (before ++ line ++ ending ++ after) := by
  have behind := contents_append_padding ⟨.inl rfl, stands.whole, stands.ends⟩ padBack
  simp only [List.append_assoc] at behind ⊢
  rw [contents_append stands.closed, contents_append stands.closed,
    contents_padding_append padFront, behind]

/-! ## Carriage returns -/

def carriageReturn : UInt8 := 0x0D

/-- The second text is the first one with carriage returns put before some of its line feeds. -/
inductive Returned : List UInt8 → List UInt8 → Prop where
  | done : Returned [] []
  | same (b : UInt8) {text text' : List UInt8} (rest : Returned text text') :
      Returned (b :: text) (b :: text')
  | returned {text text' : List UInt8} (rest : Returned text text') :
      Returned (lineFeed :: text) (carriageReturn :: lineFeed :: text')

theorem contents_returned {text text' : List UInt8} (returned : Returned text text') :
    contents text' = contents text := by
  -- the line that is being read goes through the induction, as it ends with what comes next
  suffices ∀ line, lineFeed ∉ line → contents (line ++ text') = contents (line ++ text) from
    this [] (by simp)
  induction returned with
  | done => exact fun _ _ => rfl
  | same b _ ih =>
    intro line whole
    by_cases ends : b = lineFeed
    · subst ends
      rw [contents_ended whole, contents_ended whole]
      exact congrArg _ (ih [] (by simp))
    · have joined : lineFeed ∉ line ++ [b] := by simp [whole, Ne.symm ends]
      simpa only [List.append_assoc, List.singleton_append] using ih (line ++ [b]) joined
  | @returned text text' _ ih =>
    intro line whole
    have joined : lineFeed ∉ line ++ [carriageReturn] :=
      List.not_mem_append whole (by decide)
    have same : content (line ++ [carriageReturn]) = content line :=
      content_append_padding (by simp [isPadding, carriageReturn]) line
    rw [← List.singleton_append, ← List.append_assoc, contents_ended joined, contents_ended whole,
      same]
    exact congrArg _ (ih [] (by simp))

/-! ## Lines that change nothing -/

/-- A line that changes nothing, and its reply in bytes. -/
inductive Idle (line : List UInt8) : List UInt8 → Prop where
  /-- A line of padding alone. -/
  | blank (padding : Stripped line []) : Idle line []
  /-- A request without an id. -/
  | silent {content : List UInt8} {request : Request} (stripped : Stripped line content)
      (filled : content ≠ []) (accepted : Request.ofBytes content = .ok request)
      (unnumbered : request.id = none) : Idle line []
  /-- No request: the reply is the rejection. -/
  | rejected {content : List UInt8} {rejection : Response} (stripped : Stripped line content)
      (filled : content ≠ []) (refused : Request.ofBytes content = .error rejection) :
      Idle line (replyBytes rejection)

theorem answered_of_idle {line reply : List UInt8} (idle : Idle line reply) (server : Server σ)
    (state : ServerState σ) : Answered server line state reply state := by
  cases idle with
  | blank padding => exact .blank padding
  | silent stripped filled accepted unnumbered => exact .silent stripped filled accepted unnumbered
  | rejected stripped filled refused => exact .rejected stripped filled refused

theorem idle_reply {line reply : List UInt8} (idle : Idle line reply) :
    reply = [] ∨ ∃ id error, reply = replyBytes (.failure id error) := by
  cases idle with
  | blank | silent => exact .inl rfl
  | rejected _ _ refused =>
    rcases Request.eq_failure_of_rejected refused with ⟨message, rfl⟩ | ⟨value, message, -, rfl⟩
    · exact .inr ⟨_, _, rfl⟩
    · exact .inr ⟨_, _, rfl⟩

/-- A session over a text with an idle line in it, and over the text without the line. -/
theorem serve_idle {before line ending after reply : List UInt8}
    (stands : Stands before line ending after) (idle : Idle line reply) (server : Server σ)
    (state : ServerState σ) :
    ∃ earlier later between final, serve server before state = (earlier, between) ∧
      serve server after between = (later, final) ∧
      serve server (before ++ line ++ ending ++ after) state = (earlier ++ reply ++ later, final) ∧
      serve server (before ++ after) state = (earlier ++ later, final) := by
  refine ⟨(serve server before state).1, (serve server after (serve server before state).2).1,
    (serve server before state).2, (serve server after (serve server before state).2).2, rfl, rfl,
    ?_, ?_⟩
  · obtain ⟨written, unchanged⟩ :=
      respond_of_answered (answered_of_idle idle server (serve server before state).2)
    have regrouped : before ++ line ++ ending ++ after = before ++ (line ++ ending ++ after) := by
      simp only [List.append_assoc]
    rw [regrouped, serve_append stands.closed, serve_line stands, ← written, ← unchanged]
    simp only [List.append_assoc]
  · rw [serve_append stands.closed]

/-! ## Recorded sessions -/

theorem respondAll_recorded (server : Server σ) (lines : List (List UInt8))
    (state : ServerState (σ × List Call)) :
    respondAll server lines state.unrecorded =
      ((respondAll server.recorded lines state).1,
        (respondAll server.recorded lines state).2.unrecorded) := by
  induction lines generalizing state with
  | nil => rfl
  | cons line rest ih => simp only [respondAll, respond_recorded, ih]

/-- Keeping the calls of the backend makes no difference to a session. -/
theorem serve_recorded (server : Server σ) (input : List UInt8)
    (state : ServerState (σ × List Call)) :
    serve server input state.unrecorded =
      ((serve server.recorded input state).1, (serve server.recorded input state).2.unrecorded) := by
  simp only [serve_eq_respondAll, respondAll_recorded]

/-- **Lines without effect are isolated.** A session is told here with the calls that reach its
backend, which changes neither its replies nor its state. A blank line, a line that is no request and
a request without an id leave the session as it is: without the line and its line feed the same
calls are made, the same state is left, backend and client's name with it, and the output lacks
exactly the line's own reply, which is nothing or one line of error. Carriage returns before line
feeds and padding around a line change nothing at all. -/
theorem idle_lines_isolated (server : Server σ) (state : ServerState σ) :
    (∀ input, serve server input state =
      ((serve server.recorded input state.uncalled).1,
        (serve server.recorded input state.uncalled).2.unrecorded)) ∧
    (∀ before line ending after reply, Stands before line ending after → Idle line reply →
      (reply = [] ∨ ∃ id error, reply = replyBytes (.failure id error)) ∧
      ∃ earlier later between final,
        serve server.recorded before state.uncalled = (earlier, between) ∧
        serve server.recorded after between = (later, final) ∧
        serve server.recorded (before ++ line ++ ending ++ after) state.uncalled =
          (earlier ++ reply ++ later, final) ∧
        serve server.recorded (before ++ after) state.uncalled = (earlier ++ later, final)) ∧
    (∀ text text', Returned text text' →
      serve server.recorded text' state.uncalled = serve server.recorded text state.uncalled) ∧
    (∀ before line ending after front back, Stands before line ending after →
      (∀ b ∈ front, isPadding b = true) → (∀ b ∈ back, isPadding b = true) →
      serve server.recorded (before ++ (front ++ line ++ back) ++ ending ++ after) state.uncalled =
        serve server.recorded (before ++ line ++ ending ++ after) state.uncalled) := by
  refine ⟨?recording, ?isolation, ?returns, ?padding⟩
  case recording =>
    intro input
    exact serve_recorded server input state.uncalled
  case isolation =>
    intro before line ending after reply stands idle
    exact ⟨idle_reply idle, serve_idle stands idle server.recorded state.uncalled⟩
  case returns =>
    intro text text' returned
    exact serve_congr (contents_returned returned) server.recorded state.uncalled
  case padding =>
    intro before line ending after front back stands padFront padBack
    exact serve_congr (contents_padded stands padFront padBack) server.recorded state.uncalled

/-- A server that lists the tools of `grantService` and no resources. -/
def grantServer : Server Nat where
  nameOverride := none
  gateway := ⟨"Grants", ⟨"Grants", [Tool.ofMethod "Grants" grantMethod]⟩, default⟩
  backend := ToolCatalog.refusingBackend

/-- A letter on a line of its own, after a blank line and before a request, costs its rejection. -/
theorem idle_lines_isolated_letter : ∃ rejection earlier later final,
    Idle [0x78] (replyBytes rejection) ∧
    serve grantServer.recorded ([0x20, lineFeed] ++ [0x78] ++ [lineFeed] ++ Request.pingSequence)
      (ServerState.uncalled ⟨none, 0⟩) = (earlier ++ replyBytes rejection ++ later, final) ∧
    serve grantServer.recorded ([0x20, lineFeed] ++ Request.pingSequence)
      (ServerState.uncalled ⟨none, 0⟩) = (earlier ++ later, final) := by
  have stripped : Stripped [0x78] [0x78] :=
    ⟨⟨[], [], rfl, by simp, by simp⟩, by simp [isPadding], by simp [isPadding]⟩
  obtain ⟨rejection, refused⟩ : ∃ rejection, Request.ofBytes [0x78] = .error rejection := by
    unfold Request.ofBytes Json.parse Json.read Json.readWithin Json.readValue
    exact ⟨_, rfl⟩
  have idle : Idle [0x78] (replyBytes rejection) := .rejected stripped (by simp) refused
  have stands : Stands [0x20, lineFeed] [0x78] [lineFeed] Request.pingSequence :=
    ⟨.inr ⟨[0x20], rfl⟩, by decide, .inl rfl⟩
  obtain ⟨_, isolation, _, _⟩ := idle_lines_isolated grantServer ⟨none, 0⟩
  obtain ⟨_, earlier, later, _, final, _, _, whole, without⟩ := isolation _ _ _ _ _ stands idle
  exact ⟨rejection, earlier, later, final, idle, whole, without⟩

end ToolGateway.Session
