import ToolGateway.Proofs.Json.Parsed
import ToolGateway.Proofs.Json.RoundTrip
import ToolGateway.Proofs.Protocol.RequestText

/-!
# Requests are read back as they were written

A request that was read from a text can be written again, and what is written is read as the same
request (`written_roundTrip`). The two ways in which a member can be absent have to be kept apart: an
absent id is left out, because `null` is an id, and absent parameters are written as `null`, which is
read as none.

Only whole requests are compared, so the text need not come back: its spaces, its other members, the
order of its members and whether it was a sequence are lost. The limits of JSON texts are kept on the
way (`sendable_of_ofBytes`): what stands in a request was one level down in the text, and is written
one level down in an object.
-/

namespace ToolGateway.Request

/-- The bytes of a request. -/
def written (request : Request) : List UInt8 := Utf8.bytes request.toJson.compact

/-- No floating-point number stands in a request. -/
structure Plain (request : Request) : Prop where
  id : ∀ value, request.id = some value → ¬ value.HasFloat
  params : ∀ value, request.params = some value → ¬ value.HasFloat

/-- A request whose JSON form says everything about it. Its parameters are not `null`, which would
stand for none, and its id and parameters are nested as deep as an object that is read allows its
members. -/
structure Sendable (request : Request) : Prop where
  current : request.version = rpcVersion
  id : ∀ value, request.id = some value → value.Exact 126
  params : ∀ value, request.params = some value → value ≠ .null ∧ value.Exact 126

theorem sendable_of_ofBytes {text : List UInt8} {request : Request}
    (accepted : ofBytes text = .ok request) (plain : request.Plain) : request.Sendable := by
  obtain ⟨value, isText, form, current⟩ := ofBytes_eq_ok_iff.mp accepted
  have fits : value.Fits (126 + 1) := Json.fits_of_parse (Json.parse_eq_ok_iff.mpr isText)
  refine ⟨current, ?id, ?params⟩
  case id =>
    intro id numbered
    exact ⟨form.fits_id fits numbered, plain.id id numbered⟩
  case params =>
    intro params given
    obtain ⟨filled, fits⟩ := form.fits_params fits given
    exact ⟨filled, fits, plain.params params given⟩

/-! ## The JSON form of a request -/

/-- The members of a request as they are written. -/
def members (request : Request) : Json.Object :=
  ("jsonrpc", .string request.version) :: (request.id.toList.map fun id => ("id", id)) ++
    [("method", .string request.method), ("params", request.params.getD .null)]

theorem toJson_eq (request : Request) : request.toJson = .object request.members := by
  unfold toJson members
  cases request.id <;> rfl

theorem find?_members (request : Request) :
    Members.find? request.members "jsonrpc" = some (.string request.version) ∧
      Members.find? request.members "id" = request.id ∧
      Members.find? request.members "method" = some (.string request.method) ∧
      Members.find? request.members "params" = some (request.params.getD .null) := by
  unfold members
  cases request.id <;> exact ⟨rfl, rfl, rfl, rfl⟩

/-- Parameters that are not `null` can be told from none. -/
theorem givenParams_getD {params : Option Json} (filled : params ≠ some .null) :
    givenParams (params.getD .null) = params := by
  cases params with
  | none => rfl
  | some value => exact givenParams_eq_some_iff.mpr ⟨rfl, fun null => filled (congrArg some null)⟩

/-- The JSON form of a request stands for it. -/
theorem form_toJson {request : Request} (filled : request.params ≠ some .null) :
    Form request.toJson request := by
  obtain ⟨versioned, numbered, named, given⟩ := request.find?_members
  have form := Form.object versioned named
  rwa [numbered, given, Option.bind_some, givenParams_getD filled, ← toJson_eq] at form

theorem exact_toJson {request : Request} (sendable : request.Sendable) :
    Json.Exact Json.depthLimit request.toJson := by
  have params : Json.Exact 126 (request.params.getD .null) := by
    cases given : request.params with
    | none => simp
    | some value => exact (sendable.params value given).2
  rw [toJson_eq, members]
  refine Json.exact_object_iff.mpr ⟨?differ, ?all⟩
  case differ => cases request.id <;> simp [Members.names]
  case all =>
    cases given : request.id with
    | none => simp [params]
    | some id => simp [params, sendable.id id given]

/-! ## Writing and reading -/

theorem isText_written {request : Request} (sendable : request.Sendable) :
    Json.IsText request.written (.object request.members) := by
  rw [← toJson_eq]
  exact Json.parse_eq_ok_iff.mp (Json.parse_compact (exact_toJson sendable))

theorem ofBytes_written {request : Request} (sendable : request.Sendable) :
    ofBytes request.written = .ok request := by
  have filled : request.params ≠ some .null := fun null => (sendable.params _ null).1 rfl
  refine ofBytes_eq_ok_iff.mpr ⟨request.toJson, ?_, form_toJson filled, sendable.current⟩
  rw [toJson_eq]
  exact isText_written sendable

/-- **Requests survive being written.** A request that a text was accepted as and that holds no
floating-point number is written as a JSON object: the version, its id if it has one, the method, and
its parameters, which are `null` if it has none. That text is accepted too, as a request with the same
four members, which is written with the same bytes. -/
theorem written_roundTrip (text : List UInt8) (request : Request)
    (accepted : ofBytes text = .ok request) (plain : request.Plain) :
    Json.IsText request.written (.object (("jsonrpc", .string "2.0") ::
      (request.id.toList.map fun id => ("id", id)) ++
      [("method", .string request.method), ("params", request.params.getD .null)])) ∧
    ∃ again, ofBytes request.written = .ok again ∧
      again.version = request.version ∧ again.id = request.id ∧ again.method = request.method ∧
      again.params = request.params ∧ again.written = request.written := by
  have sendable := sendable_of_ofBytes accepted plain
  refine ⟨?_, request, ofBytes_written sendable, rfl, rfl, rfl, rfl, rfl⟩
  have isText := isText_written sendable
  rwa [members, sendable.current] at isText

/-- Parameters that hold the largest and the smallest whole numbers and characters that are escaped. -/
def widestParams : Json :=
  .object [("b", .array [.integer 18446744073709551615, .integer (-9223372036854775808)]),
    ("a", .string "\"\n")]

/-- A request whose id is `null`, with a further member and its members in another order. -/
def reorderedJson : Json :=
  .object [("params", widestParams), ("trace", .boolean true), ("id", .null),
    ("method", .string "ping"), ("jsonrpc", .string "2.0")]

/-- The request is written in order and without the further member, and it keeps its id. -/
theorem written_roundTrip_reordered : ∃ request,
    ofBytes (Utf8.bytes reorderedJson.pretty) = .ok request ∧
      Json.IsText request.written (.object [("jsonrpc", .string "2.0"), ("id", .null),
        ("method", .string "ping"), ("params", widestParams)]) ∧
      ∃ again, ofBytes request.written = .ok again ∧ again.id = some .null ∧
        again.params = some widestParams ∧ again.written = request.written := by
  have largest : Json.Exact 124 (.integer 18446744073709551615) :=
    Json.exact_integer_iff.mpr (by decide)
  have smallest : Json.Exact 124 (.integer (-9223372036854775808)) :=
    Json.exact_integer_iff.mpr (by decide)
  have params : Json.Exact 126 widestParams :=
    Json.exact_object_iff.mpr ⟨by decide, by simp [largest, smallest]⟩
  have exact : Json.Exact Json.depthLimit reorderedJson :=
    Json.exact_object_iff.mpr ⟨by decide, by simp [params]⟩
  have accepted : ofBytes (Utf8.bytes reorderedJson.pretty) =
      .ok ⟨"2.0", some .null, "ping", some widestParams⟩ :=
    ofBytes_eq_ok_iff.mpr ⟨reorderedJson, Json.parse_eq_ok_iff.mp (Json.parse_pretty exact),
      .object rfl rfl, rfl⟩
  have plain : Plain ⟨"2.0", some .null, "ping", some widestParams⟩ := by
    constructor
    · rintro _ ⟨⟩
      exact nofun
    · rintro _ ⟨⟩
      exact params.plain
  obtain ⟨isText, again, read, -, id, -, given, same⟩ := written_roundTrip _ _ accepted plain
  exact ⟨_, accepted, isText, again, read, id, given, same⟩

end ToolGateway.Request
