import ToolGateway.Proofs.Json.Fits
import ToolGateway.Proofs.Protocol.RequestForm
import ToolGateway.Protocol.Response

/-!
# Responses are decoded as they were sent

The JSON form of a response decodes to that response, up to the id: an absent id is written as
`null`, and `null` is decoded as an absent id. The forms of all other fields can be told from their
absence, provided that no result and no data is `null` and the code of an error has 32 bits.
-/

namespace ToolGateway

theorem Json.object_ne_null (members : Json.Object) : Json.object members ≠ .null := nofun

theorem Fields.nullable_named_eq_value_iff {β : Type} {members : Json.Object} {name : String}
    {decode : Decoder Json β} {result : Option β} :
    (Fields.named members).nullable name decode = .value result ↔
      (∃ given, Members.find? members name = some given ∧
        Decoder.optional decode given = .ok result) ∨
      (Members.find? members name = none ∧ result = none) := by
  rw [nullable, readOr_eq_value_iff]
  simp only [Reading.value.injEq, eq_comm (a := none)]
  rfl

theorem Decoder.int32_integer {n : Int} (small : isInt32 n = true) :
    (Decoder.int32 (Json.integer n) : Except DecodeError Int) = .ok n := by
  show (if isInt32 n = true then Except.ok n else _) = _
  rw [if_pos small]

theorem Decoder.optional_of_ne_null {β : Type} {decode : Decoder Json β} {value : Json}
    (filled : value ≠ .null) : Decoder.optional decode value = some <$> decode value := by
  unfold Decoder.optional
  split
  next shape => exact absurd (Json.shape_eq_null_iff.mp shape) filled
  · rfl

/-- A field that is left out when it is absent, and is never `null`, is read as it was written. -/
theorem Fields.nullable_named_of_written {β : Type} {members : Json.Object} {name : String}
    {decode : Decoder Json β} (encode : β → Json) {given : Option β}
    (written : Members.find? members name = given.map encode)
    (back : ∀ value, given = some value → encode value ≠ .null ∧ decode (encode value) = .ok value) :
    (Fields.named members).nullable name decode = .value given := by
  rw [nullable_named_eq_value_iff]
  cases given with
  | none => exact .inr ⟨written, rfl⟩
  | some value =>
    obtain ⟨filled, decoded⟩ := back value rfl
    refine .inl ⟨encode value, written, ?_⟩
    rw [Decoder.optional_of_ne_null filled, decoded]
    rfl

namespace RpcError

/-- An error whose JSON form says everything about it: its code has 32 bits, and its data are not
`null`, which would stand for none, and hold nothing nested. -/
structure Sendable (error : RpcError) : Prop where
  code : isInt32 error.code = true
  data : ∀ value, error.data = some value → value ≠ .null ∧ value.Exact 1

theorem sendable_bare {code : Int} (small : isInt32 code = true) (message : String) :
    Sendable ⟨code, message, none⟩ := ⟨small, nofun⟩

theorem decode_toJson {error : RpcError} (sendable : error.Sendable) :
    decode error.toJson = .ok error := by
  obtain ⟨code, message, data⟩ := error
  obtain ⟨small, filled⟩ := sendable
  rw [toJson, decode, Decoder.record_object_eq_ok_iff]
  refine Reading.seq_eq_value_iff.mpr ⟨_, data, Reading.seq_eq_value_iff.mpr ⟨_, message,
    Reading.map_eq_value_iff.mpr ⟨code, ?code, rfl⟩, ?message, rfl⟩, ?data, rfl⟩
  case code => exact Fields.required_eq_value_iff.mpr ⟨_, rfl, Decoder.int32_integer small⟩
  case message => exact Fields.required_eq_value_iff.mpr ⟨_, rfl, Decoder.string_eq_ok_iff.mpr rfl⟩
  case data =>
    refine Fields.nullable_named_of_written (fun value => value) ?_ fun value given =>
      ⟨(filled value given).1, rfl⟩
    cases data <;> rfl

theorem exact_toJson {error : RpcError} (sendable : error.Sendable) : error.toJson.Exact 2 := by
  have code : Json.Exact 1 (.integer error.code) := by
    have small := sendable.code
    simp only [isInt32, Bool.and_eq_true, decide_eq_true_eq] at small
    simp only [Json.integer, Json.exact_integer_iff, isWide, Bool.and_eq_true, decide_eq_true_eq]
    omega
  unfold toJson
  cases given : error.data with
  | none => simp [Members.names, code]
  | some value => simp [Members.names, code, (sendable.data value given).2]

end RpcError

namespace Response

/-- A response whose JSON form says everything about it but whether it has an id. The result may be
nested six deep, and the id as deep as an object that is read allows its members. -/
structure Sendable (response : Response) : Prop where
  id : ∀ value, response.id = some value → value.Fits 126
  result : ∀ value, response.result = some value → value ≠ .null ∧ value.Exact 6
  error : ∀ error, response.error = some error → error.Sendable

section

variable {id : Option Json} (read : ∀ value, id = some value → value.Fits 126)
include read

theorem sendable_success {result : Json} (filled : result ≠ .null) (exact : result.Exact 6) :
    (success id result).Sendable where
  id := read
  result := by
    rintro _ ⟨⟩
    exact ⟨filled, exact⟩
  error := nofun

theorem sendable_failure {error : RpcError} (sound : error.Sendable) :
    (failure id error).Sendable where
  id := read
  result := nofun
  error := by
    rintro _ ⟨⟩
    exact sound

end

/-- A response is decoded as it was sent, an id that is `null` as an absent one. -/
theorem decode_toJson {response : Response} (sendable : response.Sendable) :
    decode response.toJson =
      .ok { response with id := Request.givenParams (response.id.getD .null) } := by
  obtain ⟨version, id, result, error⟩ := response
  obtain ⟨-, filled, sound⟩ := sendable
  rw [toJson, decode, Decoder.record_object_eq_ok_iff]
  refine Reading.seq_eq_value_iff.mpr ⟨_, error, Reading.seq_eq_value_iff.mpr ⟨_, result,
    Reading.seq_eq_value_iff.mpr ⟨_, _, Reading.map_eq_value_iff.mpr ⟨version, ?version, rfl⟩,
      ?id, rfl⟩, ?result, rfl⟩, ?error, rfl⟩
  case version => exact Fields.required_eq_value_iff.mpr ⟨_, rfl, Decoder.string_eq_ok_iff.mpr rfl⟩
  case id =>
    exact Fields.nullable_named_eq_value_iff.mpr (.inl ⟨_, rfl, Request.optional_anything_eq _⟩)
  case result =>
    refine Fields.nullable_named_of_written (fun value => value) ?_ fun value given =>
      ⟨(filled value given).1, rfl⟩
    cases result <;> cases error <;> rfl
  case error =>
    refine Fields.nullable_named_of_written RpcError.toJson ?_ fun error given =>
      ⟨Json.object_ne_null _, RpcError.decode_toJson (sound error given)⟩
    cases result <;> cases error <;> rfl

/-- An absent id and one that is `null` are written alike. -/
theorem toJson_givenParams (response : Response) :
    toJson { response with id := Request.givenParams (response.id.getD .null) } =
      response.toJson := by
  simp only [toJson, Request.getD_givenParams]

/-- A response is an exact value unless a floating-point number stands in its id. -/
theorem exact_toJson {response : Response} (sendable : response.Sendable)
    (plain : ∀ value, response.id = some value → ¬ value.HasFloat) :
    Json.Exact Json.depthLimit response.toJson := by
  have id : Json.Exact 126 (response.id.getD .null) := by
    cases given : response.id with
    | none => simp
    | some value => exact ⟨sendable.id value given, plain value given⟩
  have result : ∀ value, response.result = some value → value.Exact 126 := fun value given =>
    (sendable.result value given).2.mono (by decide)
  have error : ∀ error, response.error = some error → error.toJson.Exact 126 := fun error given =>
    (RpcError.exact_toJson (sendable.error error given)).mono (by decide)
  refine Json.exact_object_iff.mpr ⟨?differ, ?all⟩
  case differ => cases response.result <;> cases response.error <;> simp [Members.names]
  case all =>
    cases given : response.result <;> cases failed : response.error <;>
      simp [id, result, error, given, failed]

end Response

end ToolGateway
