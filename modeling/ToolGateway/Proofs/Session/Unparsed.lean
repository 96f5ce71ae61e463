import ToolGateway.Proofs.Json.Edges
import ToolGateway.Proofs.Protocol.Classification
import ToolGateway.Proofs.Session.Isolation
import ToolGateway.Proofs.Session.Output

/-!
# Lines that are not JSON

A line that is not JSON is meant to get one reply, which says that it cannot be parsed, and not to
reach the server. `JsonOnlyAt` says what this asks of one line, and `jsonOnlyAt_iff` says for which
lines it holds.

A session strips a line before it is read, and what it strips has to be compared with what JSON allows
around a value. The two differ in one byte, the form feed (`isPadding_iff`). So the lines that fail are
those with a form feed around a value, which are read as that value, and those of blanks and form feeds
alone, which get no reply (`FeedPadded`).

A value begins and ends with a byte that is never stripped, so in a JSON text what is stripped are the
blanks around its value (`exists_cut_of_isText`). Hence no line is both a JSON text and padded with form
feeds (`FeedPadded.not_isText`).
-/

namespace ToolGateway.Session

/-! ## The statement at one line -/

/-- The reply to a text that is not JSON, as a line. -/
def parseErrorLine (message : String) : List UInt8 :=
  Utf8.bytes (Json.object [("jsonrpc", .string "2.0"), ("id", .null),
    ("error", .object [("code", .integer (-32700)), ("message", .string message)])]).compact
      ++ [lineFeed]

theorem replyBytes_parseError (message : String) :
    replyBytes (.failure none (.parseError message)) = parseErrorLine message := rfl

/-- A line that cannot be parsed: it gets one reply, which says so under no id, and the session goes on
as it was. -/
structure Unparsed (line : List UInt8) (message : String) : Prop where
  /-- The server gets nothing: what is left of the line without its padding is no request. -/
  unhanded : ∀ content, Stripped line content → ∀ request, Request.ofBytes content ≠ .ok request
  replied : ∀ {σ : Type} (server : Server σ) (state : ServerState σ),
    respond server line state = (some ⟨"2.0", none, none, some ⟨-32700, message, none⟩⟩, state)
  /-- Wherever the line stands in a stream, its reply stands between those to the lines around it. -/
  written : ∀ {σ : Type} (server : Server σ) (state : ServerState σ) before ending after,
    Stands before line ending after → ∃ earlier later between final,
      serve server before state = (earlier, between) ∧
      serve server after between = (later, final) ∧
      serve server (before ++ line ++ ending ++ after) state =
        (earlier ++ parseErrorLine message ++ later, final)

/-- At this line, only JSON is read: when it has more than spaces, tabs and carriage returns in it and
is not JSON, it cannot be parsed. -/
def JsonOnlyAt (line : List UInt8) : Prop :=
  lineFeed ∉ line → (∃ b ∈ line, b ∉ [0x20, 0x09, carriageReturn]) →
    (∀ value, ¬ Json.IsText line value) → ∃ message, Unparsed line message

/-! ## What is stripped, and what JSON allows -/

def formFeed : UInt8 := 0x0C

theorem isPadding_iff {b : UInt8} : isPadding b = true ↔ Json.isBlank b = true ∨ b = formFeed := by
  simp only [isPadding, Json.isBlank, formFeed, Bool.or_eq_true, beq_iff_eq]
  tauto

theorem isPadding_of_visible {b : UInt8} (visible : 0x20 < b) : isPadding b = false := by
  rw [Bool.eq_false_iff]
  intro padding
  simp only [isPadding, Bool.or_eq_true, beq_iff_eq] at padding
  rcases padding with (((rfl | rfl) | rfl) | rfl) | rfl <;> exact absurd visible (by decide)

/-! ## Where the padding of a line ends -/

/-- A line that is not padding alone, cut where its padding ends. -/
structure Cut (line before content after : List UInt8) : Prop where
  parts : line = before ++ content ++ after
  front : ∀ b ∈ before, isPadding b = true
  back : ∀ b ∈ after, isPadding b = true
  filled : content ≠ []
  first : ∀ b ∈ content.head?, isPadding b = false
  last : ∀ b ∈ content.getLast?, isPadding b = false

namespace Cut

variable {line before content after before' content' after' : List UInt8}

theorem stripped (cut : Cut line before content after) : Stripped line content :=
  ⟨⟨before, after, cut.parts, cut.front, cut.back⟩, cut.first, cut.last⟩

theorem takeWhile_eq (cut : Cut line before content after) : line.takeWhile isPadding = before := by
  obtain ⟨rfl, front, -, filled, first, -⟩ := cut
  rw [List.append_assoc, List.takeWhile_append_of_pos front]
  cases content with
  | nil => exact absurd rfl filled
  | cons b rest => simp [first b rfl]

/-- A line is cut in one way only. -/
theorem unique (cut : Cut line before content after) (other : Cut line before' content' after') :
    before = before' ∧ after = after' := by
  have front : before = before' := cut.takeWhile_eq.symm.trans other.takeWhile_eq
  have middle : content = content' :=
    (stripped_iff.mp cut.stripped).trans (stripped_iff.mp other.stripped).symm
  have same := cut.parts.symm.trans other.parts
  rw [front, middle] at same
  exact ⟨front, List.append_cancel_left same⟩

end Cut

/-- A JSON text is cut where the blanks around its value end. -/
theorem exists_cut_of_isText {line : List UInt8} {value : Json} (isText : Json.IsText line value) :
    ∃ before content after, Cut line before content after ∧
      ∀ b ∈ before ++ after, Json.isBlank b = true := by
  obtain ⟨before, content, after, parts, filled, first, last, front, back⟩ :=
    Json.exists_core_of_isText isText
  refine ⟨before, content, after, ⟨parts, ?_, ?_, filled, ?_, ?_⟩, ?_⟩
  · exact fun b member => isPadding_iff.mpr (.inl (front b member))
  · exact fun b member => isPadding_iff.mpr (.inl (back b member))
  · exact fun b head => isPadding_of_visible (first b head)
  · exact fun b tail => isPadding_of_visible (last b tail)
  · exact fun b member => (List.mem_append.mp member).elim (front b) (back b)

/-- Nothing is left of a line of padding alone. -/
theorem stripped_of_padding {line : List UInt8} (padding : ∀ b ∈ line, isPadding b = true) :
    Stripped line [] :=
  ⟨⟨line, [], by simp, padding, by simp⟩, by simp, by simp⟩

/-! ## Lines padded with form feeds -/

/-- A line with a form feed around it: nothing else but blanks and form feeds stands in the line, or
these stand around a JSON value. -/
inductive FeedPadded (line : List UInt8) : Prop where
  | alone (whole : lineFeed ∉ line) (padding : ∀ b ∈ line, isPadding b = true)
      (fed : formFeed ∈ line) : FeedPadded line
  | around {before content after : List UInt8} {value : Json} (whole : lineFeed ∉ line)
      (cut : Cut line before content after) (fed : formFeed ∈ before ++ after)
      (isText : Json.IsText content value) : FeedPadded line

namespace FeedPadded

variable {line : List UInt8}

theorem lineFeed_not_mem (padded : FeedPadded line) : lineFeed ∉ line := by
  cases padded with
  | alone whole | around whole => exact whole

theorem formFeed_mem (padded : FeedPadded line) : formFeed ∈ line := by
  cases padded with
  | alone _ _ fed => exact fed
  | around _ cut fed =>
    rw [cut.parts, List.mem_append, List.mem_append]
    exact (List.mem_append.mp fed).imp .inl id

theorem not_isText (padded : FeedPadded line) (value : Json) : ¬ Json.IsText line value := by
  intro isText
  obtain ⟨before, content, after, cut, blanks⟩ := exists_cut_of_isText isText
  cases padded with
  | alone _ padding =>
    have same :=
      (stripped_iff.mp cut.stripped).trans (stripped_iff.mp (stripped_of_padding padding)).symm
    exact cut.filled same
  | around _ other fed =>
    obtain ⟨rfl, rfl⟩ := other.unique cut
    exact absurd (blanks formFeed fed) (by decide)

/-- The line gets no reply, or it is read as the value in it. -/
theorem not_unparsed (padded : FeedPadded line) (message : String) : ¬ Unparsed line message := by
  intro unparsed
  have replied := unparsed.replied grantServer ⟨none, 0⟩
  cases padded with
  | alone _ padding =>
    have empty : trim line = [] := trim_eq_of_stripped (stripped_of_padding padding)
    simp [respond, empty] at replied
  | @around _ content _ value _ cut _ isText =>
    have stripped := cut.stripped
    have same : trim line = content := (stripped_iff.mp stripped).symm
    cases read : Request.ofBytes content with
    | ok request => exact unparsed.unhanded content stripped request read
    | error rejection =>
      simp only [respond, same, List.isEmpty_iff, cut.filled, if_false, read, Prod.mk.injEq,
        Option.some.injEq, and_true] at replied
      exact Request.ofBytes_eq_parseError_iff.mp ⟨message, by rw [read, replied]; rfl⟩ value isText

theorem not_jsonOnlyAt (padded : FeedPadded line) : ¬ JsonOnlyAt line := by
  intro only
  obtain ⟨message, unparsed⟩ :=
    only padded.lineFeed_not_mem ⟨formFeed, padded.formFeed_mem, by decide⟩ padded.not_isText
  exact padded.not_unparsed message unparsed

end FeedPadded

/-! ## All other lines -/

/-- A line that holds something that is not JSON cannot be parsed. -/
theorem exists_unparsed {line content : List UInt8} (stripped : Stripped line content)
    (filled : content ≠ []) (noText : ∀ value, ¬ Json.IsText content value) :
    ∃ message, Unparsed line message := by
  obtain ⟨message, refused⟩ := Request.ofBytes_eq_parseError_iff.mpr noText
  have same : trim line = content := (stripped_iff.mp stripped).symm
  refine ⟨message, ?unhanded, ?replied, ?written⟩
  case unhanded =>
    intro other also request accepted
    obtain rfl := (stripped_iff.mp also).trans same
    rw [accepted] at refused
    cases refused
  case replied =>
    intro σ server state
    simp only [respond, same, List.isEmpty_iff, filled, if_false, refused]
    rfl
  case written =>
    intro σ server state before ending after stands
    obtain ⟨earlier, later, between, final, first, second, whole, -⟩ :=
      serve_idle stands (.rejected stripped filled refused) server state
    rw [replyBytes_parseError] at whole
    exact ⟨earlier, later, between, final, first, second, whole⟩

/-- **Only JSON is read, except within form feeds.** At a line that is not padded with form feeds,
whatever is not JSON gets the one reply that it cannot be parsed, in every session, and the server gets
nothing. At a line that is, this fails. -/
theorem jsonOnlyAt_iff {line : List UInt8} : JsonOnlyAt line ↔ ¬ FeedPadded line := by
  constructor
  · intro only padded
    exact padded.not_jsonOnlyAt only
  · intro unpadded whole seen noText
    obtain ⟨⟨before, after, parts, front, back⟩, first, last⟩ := stripped_trim line
    by_cases filled : trim line = []
    · -- the line is padding alone, and what is seen in it is a form feed
      have padding : ∀ b ∈ line, isPadding b = true := by
        intro b member
        rw [parts, filled, List.append_nil] at member
        exact (List.mem_append.mp member).elim (front b) (back b)
      obtain ⟨b, member, other⟩ := seen
      rcases isPadding_iff.mp (padding b member) with blank | rfl
      · simp only [Json.isBlank, Bool.or_eq_true, beq_iff_eq] at blank
        rcases blank with ((rfl | rfl) | rfl) | rfl
        · exact absurd (by decide) other
        · exact absurd (by decide) other
        · exact absurd member whole
        · exact absurd (by decide) other
      · exact absurd (.alone whole padding member) unpadded
    · refine exists_unparsed (stripped_trim line) filled fun value isText => ?_
      -- without form feeds around it the JSON text makes the line one
      have unfed : formFeed ∉ before ++ after := fun fed =>
        unpadded (.around whole ⟨parts, front, back, filled, first, last⟩ fed isText)
      have blank : ∀ b ∈ before ++ after, Json.isBlank b = true := by
        intro b member
        have padding := (List.mem_append.mp member).elim (front b) (back b)
        exact (isPadding_iff.mp padding).resolve_right fun same => unfed (same ▸ member)
      refine noText value ?_
      rw [parts]
      exact isText.padded (fun b member => blank b (List.mem_append_left _ member))
        fun b member => blank b (List.mem_append_right _ member)

/-- A call of `ping`. -/
def pingJson : Json :=
  .object [("jsonrpc", .string "2.0"), ("id", .integer 1), ("method", .string "ping")]

/-- The call is made although a form feed stands before it. -/
theorem not_jsonOnlyAt_fedPing : ¬ JsonOnlyAt (formFeed :: Utf8.bytes pingJson.compact) := by
  have one : Json.Exact 126 (.integer 1) := Json.exact_integer_iff.mpr (by decide)
  have exact : Json.Exact Json.depthLimit pingJson :=
    Json.exact_object_iff.mpr ⟨by decide, by simp [one]⟩
  have isText := Json.parse_eq_ok_iff.mp (Json.parse_compact exact)
  have cut : Cut (formFeed :: Utf8.bytes pingJson.compact) [formFeed] (Utf8.bytes pingJson.compact)
      [] :=
    ⟨by simp, by simp [isPadding, formFeed], by simp, isText.ne_nil, by decide +kernel,
      by decide +kernel⟩
  have whole : lineFeed ∉ formFeed :: Utf8.bytes pingJson.compact :=
    List.not_mem_cons_of_ne_of_not_mem (by decide) (lineFeed_not_mem_compact pingJson)
  exact (FeedPadded.around whole cut (by simp) isText).not_jsonOnlyAt

end ToolGateway.Session
