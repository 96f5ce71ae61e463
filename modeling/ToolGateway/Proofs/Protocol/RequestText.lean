import ToolGateway.Proofs.Json.Reading
import ToolGateway.Proofs.Members
import ToolGateway.Proofs.Protocol.RequestForm
import ToolGateway.Proofs.Session.Replies

/-!
# Which texts are requests

Requests are meant to be JSON objects. `OnlyObjectsAt` says what this asks of one text: it is
accepted only as an object that names the version and a method, and every other JSON text is rejected
as an invalid request, with one reply and nothing else done. `onlyObjectsAt_iff` says for which texts
it holds: for all but the sequences of the version, an id, a method and at most one further value,
which are accepted as well.
-/

namespace ToolGateway.Request

open Session

/-- A JSON object whose last `jsonrpc` is the version and whose last `method` is a string. -/
def IsRequestObject (text : List UInt8) : Prop :=
  ∃ entries method, Json.IsObjectText text entries ∧
    Members.LastEntry entries "jsonrpc" (.string rpcVersion) ∧
    Members.LastEntry entries "method" (.string method)

/-- A JSON array of the version, any value, a string and at most one more value. -/
def IsRequestSequence (text : List UInt8) : Prop :=
  ∃ id method more, more.length ≤ 1 ∧
    Json.IsText text (.array (.string rpcVersion :: id :: .string method :: more))

/-- At this text, only objects are requests. -/
structure OnlyObjectsAt (text : List UInt8) : Prop where
  /-- What is accepted is such an object. -/
  accepted : ∀ request, ofBytes text = .ok request → IsRequestObject text
  /-- Any other JSON text is rejected as an invalid request. A line that holds it gets one reply,
  and the server is left as it is. -/
  refused : ∀ value, Json.IsText text value → ¬ IsRequestObject text →
    ∃ id message, ofBytes text = .error (.failure id (.invalidRequest message)) ∧
      ∀ (σ : Type) (server : Server σ) line state reply next, Stripped line text →
        (Answered server line state reply next ↔
          reply = replyBytes (.failure id (.invalidRequest message)) ∧ next = state)

theorem isRequestObject_iff {text : List UInt8} :
    IsRequestObject text ↔ ∃ members method, Json.IsText text (.object members) ∧
      Members.find? members "jsonrpc" = some (.string rpcVersion) ∧
      Members.find? members "method" = some (.string method) := by
  have last : ∀ {entries : Json.Object} {name value},
      Members.find? (Members.putAll [] entries) name = some value ↔
        Members.LastEntry entries name value := by
    intro entries name value
    simp [Members.find?_putAll, Members.find?]
  constructor
  · rintro ⟨entries, method, listed, versioned, named⟩
    exact ⟨_, method, Json.isText_object_iff.mpr ⟨entries, listed, rfl⟩, last.mpr versioned,
      last.mpr named⟩
  · rintro ⟨members, method, isObject, versioned, named⟩
    obtain ⟨entries, listed, rfl⟩ := Json.isText_object_iff.mp isObject
    exact ⟨entries, method, listed, last.mp versioned, last.mp named⟩

/-- A text is accepted exactly when it is JSON of one of the forms of a request, with the version. -/
theorem ofBytes_eq_ok_iff {text : List UInt8} {request : Request} :
    ofBytes text = .ok request ↔
      ∃ value, Json.IsText text value ∧ Form value request ∧ request.version = rpcVersion := by
  constructor
  · intro accepted
    unfold ofBytes at accepted
    split at accepted
    · cases accepted
    next value parsed =>
      unfold ofJson at accepted
      split at accepted
      · cases accepted
      next found decoded =>
        split at accepted
        next current =>
          obtain rfl := Except.ok.inj accepted
          exact ⟨value, Json.parse_eq_ok_iff.mp parsed, decode_eq_ok_iff.mp decoded, current⟩
        next => cases accepted
  · rintro ⟨value, isText, form, current⟩
    have parsed := Json.parse_eq_ok_iff.mpr isText
    have decoded := decode_eq_ok_iff.mpr form
    simp [ofBytes, parsed, ofJson, decoded, current]

/-- A JSON text that is not accepted is rejected as an invalid request, under the id it has. -/
theorem exists_message_of_ofBytes {text : List UInt8} {value : Json} (isText : Json.IsText text value)
    (none : ∀ request, ofBytes text ≠ .ok request) :
    ∃ message, ofBytes text = .error (.failure (value.get? "id") (.invalidRequest message)) := by
  have parsed := Json.parse_eq_ok_iff.mpr isText
  revert none
  simp only [ofBytes, parsed, ofJson]
  intro none
  split
  · exact ⟨_, rfl⟩
  next request found =>
    split
    next current => exact absurd (by simp [found, current]) (none request)
    next outdated => exact ⟨_, rfl⟩

/-- A text is rejected because it cannot be parsed, or as an invalid request under the id it has. -/
theorem eq_failure_of_rejected {text : List UInt8} {rejection : Response}
    (refused : ofBytes text = .error rejection) :
    (∃ message, rejection = .failure none (.parseError message)) ∨
      ∃ value message, Json.IsText text value ∧
        rejection = .failure (value.get? "id") (.invalidRequest message) := by
  cases parsed : Json.parse text with
  | error message =>
    simp only [ofBytes, parsed] at refused
    exact .inl ⟨message, (Except.error.inj refused).symm⟩
  | ok value =>
    have isText := Json.parse_eq_ok_iff.mp parsed
    obtain ⟨message, same⟩ := exists_message_of_ofBytes isText fun request accepted => by
      rw [accepted] at refused
      cases refused
    exact .inr ⟨value, message, isText, Except.error.inj (refused.symm.trans same)⟩

theorem exists_request_iff {text : List UInt8} :
    (∃ request, ofBytes text = .ok request) ↔ IsRequestObject text ∨ IsRequestSequence text := by
  rw [isRequestObject_iff]
  constructor
  · rintro ⟨request, accepted⟩
    obtain ⟨value, isText, form, current⟩ := ofBytes_eq_ok_iff.mp accepted
    cases form with
    | object versioned named =>
      obtain rfl := current
      exact .inl ⟨_, _, isText, versioned, named⟩
    | @bareSequence version method id =>
      obtain rfl := current
      exact .inr ⟨id, method, [], Nat.zero_le _, isText⟩
    | @sequence version method id params =>
      obtain rfl := current
      exact .inr ⟨id, method, [params], Nat.le_refl _, isText⟩
  · rintro (⟨members, method, isText, versioned, named⟩ | ⟨id, method, more, few, isText⟩)
    · exact ⟨_, ofBytes_eq_ok_iff.mpr ⟨_, isText, .object versioned named, rfl⟩⟩
    · rcases more with _ | ⟨params, _ | ⟨other, more⟩⟩
      · exact ⟨_, ofBytes_eq_ok_iff.mpr ⟨_, isText, .bareSequence, rfl⟩⟩
      · exact ⟨_, ofBytes_eq_ok_iff.mpr ⟨_, isText, .sequence, rfl⟩⟩
      · simp at few

theorem not_isRequestObject_of_sequence {text : List UInt8} (sequence : IsRequestSequence text) :
    ¬ IsRequestObject text := by
  intro object
  obtain ⟨members, _, isObject, -, -⟩ := isRequestObject_iff.mp object
  obtain ⟨_, _, _, -, isArray⟩ := sequence
  cases isObject.unique isArray

/-- A rejected text gets its rejection as the one reply, and nothing else is done. -/
theorem answered_rejected_iff {σ : Type} {server : Server σ} {line text reply : List UInt8}
    {state next : ServerState σ} {rejection : Response} (stripped : Stripped line text)
    (filled : text ≠ []) (refused : ofBytes text = .error rejection) :
    Answered server line state reply next ↔ reply = replyBytes rejection ∧ next = state := by
  have answered : Answered server line state (replyBytes rejection) state :=
    .rejected stripped filled refused
  constructor
  · intro other
    have found := respond_of_answered other
    have known := respond_of_answered answered
    exact ⟨found.1.trans known.1.symm, found.2.trans known.2.symm⟩
  · rintro ⟨written, kept⟩
    rw [written, kept]
    exact answered

/-- **Only objects are requests, except for some sequences.** -/
theorem onlyObjectsAt_iff {text : List UInt8} : OnlyObjectsAt text ↔ ¬ IsRequestSequence text := by
  constructor
  · intro only sequence
    obtain ⟨request, accepted⟩ := exists_request_iff.mpr (.inr sequence)
    exact not_isRequestObject_of_sequence sequence (only.accepted request accepted)
  · intro noSequence
    have isObject : (∃ request, ofBytes text = .ok request) → IsRequestObject text := by
      intro accepted
      rcases exists_request_iff.mp accepted with object | sequence
      · exact object
      · exact absurd sequence noSequence
    refine ⟨fun request accepted => isObject ⟨request, accepted⟩, ?_⟩
    intro value isText noObject
    obtain ⟨message, refused⟩ := exists_message_of_ofBytes isText
      (fun request accepted => noObject (isObject ⟨request, accepted⟩))
    refine ⟨_, message, refused, ?_⟩
    intro σ server line state reply next stripped
    exact answered_rejected_iff stripped isText.ne_nil refused

/-- A call of `ping` written as a sequence. -/
def pingSequence : List UInt8 := Utf8.bytes "[\"2.0\",1,\"ping\"]"

theorem isText_pingSequence :
    Json.IsText pingSequence (.array [.string rpcVersion, .integer 1, .string "ping"]) := by
  have version : Json.Grammar.Characters [0x32, 0x2E, 0x30, 0x22, 0x2C, 0x31, 0x2C, 0x22, 0x70, 0x69,
      0x6E, 0x67, 0x22, 0x5D] ['2', '.', '0'] [0x2C, 0x31, 0x2C, 0x22, 0x70, 0x69, 0x6E, 0x67, 0x22,
      0x5D] :=
    .plain (c := '2') (by decide) (by decide) (by decide) <|
      .plain (c := '.') (by decide) (by decide) (by decide) <|
      .plain (c := '0') (by decide) (by decide) (by decide) .close
  have id : Json.Grammar.Numeral [0x31, 0x2C, 0x22, 0x70, 0x69, 0x6E, 0x67, 0x22, 0x5D]
      ⟨[0x31], [], none⟩ [0x2C, 0x22, 0x70, 0x69, 0x6E, 0x67, 0x22, 0x5D] :=
    .mk (.other rfl (by decide) ⟨rfl, by simp, rfl⟩) (.absent (by decide))
      (.absent (by simp [Json.Grammar.isExponentLetter]))
  have method : Json.Grammar.Characters [0x70, 0x69, 0x6E, 0x67, 0x22, 0x5D] ['p', 'i', 'n', 'g']
      [0x5D] :=
    .plain (c := 'p') (by decide) (by decide) (by decide) <|
      .plain (c := 'i') (by decide) (by decide) (by decide) <|
      .plain (c := 'n') (by decide) (by decide) (by decide) <|
      .plain (c := 'g') (by decide) (by decide) (by decide) .close
  have items : Json.Grammar.Items 126 [0x22, 0x32, 0x2E, 0x30, 0x22, 0x2C, 0x31, 0x2C, 0x22, 0x70,
      0x69, 0x6E, 0x67, 0x22, 0x5D] [.string rpcVersion, .integer 1, .string "ping"] [] :=
    .more (.string version) (.none _) (.none _) <|
      .more (.positive id rfl) (.none _) (.none _) <|
      .last (.string method) (.none _)
  exact ⟨pingSequence, [], .none _, .array (.none _) items, .none _⟩

/-- The sequence is accepted although it is no object. -/
theorem not_onlyObjectsAt_pingSequence : ¬ OnlyObjectsAt pingSequence := by
  have sequence : IsRequestSequence pingSequence :=
    ⟨.integer 1, "ping", [], Nat.zero_le 1, isText_pingSequence⟩
  intro only
  obtain ⟨request, accepted⟩ := exists_request_iff.mpr (.inr sequence)
  exact not_isRequestObject_of_sequence sequence (only.accepted request accepted)

end ToolGateway.Request
