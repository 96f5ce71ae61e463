import ToolGateway.Proofs.Protocol.RequestText

/-!
# What becomes of a text

Every text is settled by `Request.ofBytes`. One that is not JSON cannot be parsed, and one that is a
JSON object is a request or an invalid request. Which of the two, and which request, is read off the
last entries under four names (`Request.Announced`), so all other entries may be left out or added
and entries with different names may change places.

The id of an object is read twice, once for the request and once for the rejection; both readings
give the same value (`ofBytes_classified`).
-/

namespace ToolGateway

namespace Members

variable {α : Type}

/-- Two lists of entries end with the same values under these names. -/
def SameLast (among : List String) (entries others : Members α) : Prop :=
  ∀ name ∈ among, ∀ value, LastEntry entries name value ↔ LastEntry others name value

theorem find?_putAll_nil {entries : Members α} {name : String} {value : α} :
    (Members.putAll [] entries).find? name = some value ↔ LastEntry entries name value := by
  simp [find?_putAll, find?]

theorem lastEntry_iff_getLast? {entries : Members α} {name : String} {value : α} :
    LastEntry entries name value ↔
      (entries.filter (·.1 == name)).getLast? = some (name, value) := by
  constructor
  · rintro ⟨before, after, rfl, last⟩
    have none : after.filter (·.1 == name) = [] := by
      rw [List.filter_eq_nil_iff]
      intro entry member same
      exact last (beq_iff_eq.mp same ▸ List.mem_map_of_mem member)
    rw [List.filter_append, List.filter_cons_of_pos (by simp), none, List.getLast?_concat]
  · intro found
    obtain ⟨_, parted⟩ := List.getLast?_eq_some_iff.mp found
    obtain ⟨before, rest, rfl, -, kept⟩ := List.filter_eq_append_iff.mp parted
    obtain ⟨skipped, after, rfl, -, -, none⟩ := List.filter_eq_cons_iff.mp kept
    refine ⟨before ++ skipped, after, (List.append_assoc _ _ _).symm, fun member => ?_⟩
    obtain ⟨entry, later, same⟩ := List.mem_map.mp member
    exact List.filter_eq_nil_iff.mp none entry later (beq_iff_eq.mpr same)

/-- Only the entries under these names count, and of their order only that under one name. -/
theorem SameLast.of_filter {among : List String} {entries others : Members α}
    (same : ∀ name ∈ among, entries.filter (·.1 == name) = others.filter (·.1 == name)) :
    SameLast among entries others := by
  intro name known value
  rw [lastEntry_iff_getLast?, lastEntry_iff_getLast?, same name known]

/-- An entry under another name makes no difference, wherever it stands. -/
theorem SameLast.of_insert {among : List String} (before after : Members α) {entry : String × α}
    (unknown : entry.1 ∉ among) :
    SameLast among (before ++ entry :: after) (before ++ after) := by
  refine .of_filter fun name known => ?_
  have other : (entry.1 == name) = false := beq_false_of_ne fun same => unknown (same ▸ known)
  rw [List.filter_append, List.filter_append, List.filter_cons_of_neg (by simp [other])]

end Members

namespace Request

open Members (LastEntry SameLast)

/-- The names under which an object gives a request. -/
def memberNames : List String := ["jsonrpc", "id", "method", "params"]

/-- The entries of an object give a request, each member by the last entry under its name. The version
and the method have to be there; an id is whatever is there, and parameters are what is there and not
`null`. -/
structure Announced (entries : Json.Object) (request : Request) : Prop where
  version : LastEntry entries "jsonrpc" (.string request.version)
  current : request.version = "2.0"
  method : LastEntry entries "method" (.string request.method)
  id : ∀ value, request.id = some value ↔ LastEntry entries "id" value
  params : ∀ value, request.params = some value ↔ LastEntry entries "params" value ∧ value ≠ .null

theorem Announced.of_same {entries others : Json.Object} (same : SameLast memberNames entries others)
    {request : Request} (announced : Announced entries request) : Announced others request where
  version := (same _ (by decide) _).mp announced.version
  current := announced.current
  method := (same _ (by decide) _).mp announced.method
  id value := (announced.id value).trans (same _ (by decide) _)
  params value := (announced.params value).trans (and_congr_left fun _ => same _ (by decide) _)

variable {text : List UInt8} {entries : Json.Object}

theorem isText_of_entries (isObject : Json.IsObjectText text entries) :
    Json.IsText text (.object (Members.putAll [] entries)) :=
  Json.isText_object_iff.mpr ⟨entries, isObject, rfl⟩

/-- What the entries of an object give as parameters. -/
theorem givenParams_putAll_eq_some_iff {value : Json} :
    (Members.find? (Members.putAll [] entries) "params").bind givenParams = some value ↔
      LastEntry entries "params" value ∧ value ≠ .null := by
  simp only [Option.bind_eq_some_iff, givenParams_eq_some_iff, Members.find?_putAll_nil]
  constructor
  · rintro ⟨given, found, rfl, nonnull⟩
    exact ⟨found, nonnull⟩
  · rintro ⟨found, nonnull⟩
    exact ⟨value, found, rfl, nonnull⟩

/-- An object is accepted as the request that its entries give. -/
theorem ofBytes_eq_ok_iff_announced (isObject : Json.IsObjectText text entries) {request : Request} :
    ofBytes text = .ok request ↔ Announced entries request := by
  rw [ofBytes_eq_ok_iff]
  constructor
  · rintro ⟨value, isText, form, current⟩
    obtain rfl := (isText_of_entries isObject).unique isText
    cases form with
    | object versioned named =>
      exact ⟨Members.find?_putAll_nil.mp versioned, current, Members.find?_putAll_nil.mp named,
        fun _ => Members.find?_putAll_nil, fun _ => givenParams_putAll_eq_some_iff⟩
  · intro announced
    refine ⟨_, isText_of_entries isObject, ?_, announced.current⟩
    have id : request.id = Members.find? (Members.putAll [] entries) "id" := by
      ext value
      rw [announced.id, Members.find?_putAll_nil]
    have params : request.params =
        (Members.find? (Members.putAll [] entries) "params").bind givenParams := by
      ext value
      rw [announced.params, givenParams_putAll_eq_some_iff]
    rcases request with ⟨version, _, method, _⟩
    obtain rfl := id
    obtain rfl := params
    exact .object (Members.find?_putAll_nil.mpr announced.version)
      (Members.find?_putAll_nil.mpr announced.method)

/-- An object gives a request exactly when it names the version and a method. -/
theorem exists_announced_iff : (∃ request, Announced entries request) ↔
    LastEntry entries "jsonrpc" (.string "2.0") ∧
      ∃ method, LastEntry entries "method" (.string method) := by
  constructor
  · rintro ⟨request, announced⟩
    exact ⟨announced.current ▸ announced.version, request.method, announced.method⟩
  · rintro ⟨version, method, named⟩
    exact ⟨⟨"2.0", Members.find? (Members.putAll [] entries) "id", method,
      (Members.find? (Members.putAll [] entries) "params").bind givenParams⟩, version, rfl, named,
      fun _ => Members.find?_putAll_nil, fun _ => givenParams_putAll_eq_some_iff⟩

/-- A text is rejected as one that cannot be parsed exactly when it is not JSON. -/
theorem ofBytes_eq_parseError_iff :
    (∃ message, ofBytes text = .error (.failure none (.parseError message))) ↔
      ∀ value, ¬ Json.IsText text value := by
  constructor
  · rintro ⟨message, refused⟩ value isText
    obtain ⟨other, invalid⟩ := exists_message_of_ofBytes isText fun request accepted => by
      rw [accepted] at refused
      cases refused
    have same := refused.symm.trans invalid
    simp [Response.failure, RpcError.parseError, RpcError.invalidRequest] at same
  · intro noText
    cases parsed : Json.parse text with
    | error message => exact ⟨message, by rw [ofBytes, parsed]⟩
    | ok value => exact absurd (Json.parse_eq_ok_iff.mp parsed) (noText value)

/-- **Every text is classified.** A text that is not JSON is rejected with code -32700 and no id. A
JSON object is accepted exactly when its last `jsonrpc` is the version and its last `method` is a
string, as the request that its last entries give. Otherwise it is rejected with code -32600, under
its last `id` if it has one. What is accepted, and as what, depends only on the last entries under
the four names of a request: unknown entries make no difference, nor does the order of the entries as
long as those under one name keep theirs. -/
theorem ofBytes_classified (text : List UInt8) :
    ((∃ message, ofBytes text = .error ⟨"2.0", none, none, some ⟨-32700, message, none⟩⟩) ↔
      ∀ value, ¬ Json.IsText text value) ∧
    (∀ entries, Json.IsObjectText text entries →
      (∀ request, ofBytes text = .ok request ↔ Announced entries request) ∧
      ((∃ request, ofBytes text = .ok request) ↔
        LastEntry entries "jsonrpc" (.string "2.0") ∧
          ∃ method, LastEntry entries "method" (.string method)) ∧
      ((∀ request, ofBytes text ≠ .ok request) → ∃ id message,
        ofBytes text = .error ⟨"2.0", id, none, some ⟨-32600, message, none⟩⟩ ∧
          ∀ value, id = some value ↔ LastEntry entries "id" value) ∧
      ∀ other others, Json.IsObjectText other others → SameLast memberNames entries others →
        ∀ request, ofBytes text = .ok request ↔ ofBytes other = .ok request) ∧
    (∀ (before after : Json.Object) entry, entry.1 ∉ memberNames →
      SameLast memberNames (before ++ entry :: after) (before ++ after)) ∧
    ∀ entries others : Json.Object,
      (∀ name, entries.filter (·.1 == name) = others.filter (·.1 == name)) →
        SameLast memberNames entries others := by
  refine ⟨ofBytes_eq_parseError_iff, ?object, ?unknown, ?order⟩
  case object =>
    intro entries isObject
    have accepted : ∀ request, ofBytes text = .ok request ↔ Announced entries request :=
      fun _ => ofBytes_eq_ok_iff_announced isObject
    refine ⟨accepted, ?_, ?_, ?_⟩
    · rw [← exists_announced_iff]
      exact exists_congr accepted
    · intro unaccepted
      obtain ⟨message, refused⟩ :=
        exists_message_of_ofBytes (isText_of_entries isObject) unaccepted
      exact ⟨_, message, refused, fun _ => Members.find?_putAll_nil⟩
    · intro other others alsoObject same request
      rw [accepted, ofBytes_eq_ok_iff_announced alsoObject]
      exact ⟨.of_same same, .of_same fun name known value => (same name known value).symm⟩
  case unknown =>
    intro before after entry unknown
    exact .of_insert before after unknown
  case order =>
    intro entries others same
    exact .of_filter fun name _ => same name

end Request

end ToolGateway
