import ToolGateway.Proofs.Decode.Json
import ToolGateway.Proofs.Json.Fits
import ToolGateway.Proofs.Members
import ToolGateway.Protocol.Request

/-!
# The forms of a request

A request is decoded from a JSON value of one of two forms. `Request.Form` lists them: an object with
its members, in any order and with further members, and a sequence of the same members in the order
of their declaration, in which only the last one may be left out.
-/

namespace ToolGateway.Request

/-- Parameters as given; `null` stands for none. -/
def givenParams : Json → Option Json
  | .null => none
  | value => some value

@[simp]
theorem getD_givenParams (value : Json) : (givenParams value).getD .null = value := by
  cases value <;> rfl

/-- The JSON values that stand for a request. -/
inductive Form : Json → Request → Prop where
  | object {members : Json.Object} {version method : String}
      (versioned : Members.find? members "jsonrpc" = some (.string version))
      (named : Members.find? members "method" = some (.string method)) :
      Form (.object members) ⟨version, Members.find? members "id", method,
        (Members.find? members "params").bind givenParams⟩
  | bareSequence {version method : String} {id : Json} :
      Form (.array [.string version, id, .string method]) ⟨version, some id, method, none⟩
  | sequence {version method : String} {id params : Json} :
      Form (.array [.string version, id, .string method, params])
        ⟨version, some id, method, givenParams params⟩

theorem givenParams_eq_some_iff {given value : Json} :
    givenParams given = some value ↔ given = value ∧ value ≠ .null := by
  cases given with
  | null =>
    constructor
    · intro found
      cases found
    · rintro ⟨rfl, nonnull⟩
      exact absurd rfl nonnull
  | _ =>
    rw [givenParams, Option.some.injEq]
    · refine (and_iff_left_of_imp ?_).symm
      rintro rfl
      exact nofun
    · exact nofun

section

variable {value : Json} {request : Request} {depth : Nat}

/-- The id of a request stands one level down in the value. -/
theorem Form.fits_id (form : Form value request) (fits : value.Fits (depth + 1)) {id : Json}
    (numbered : request.id = some id) : id.Fits depth := by
  cases form with
  | object => exact fits.entry (Members.mem_of_find? numbered)
  | bareSequence | sequence =>
    obtain rfl := Option.some.inj numbered
    exact fits.item (by simp)

/-- So do the parameters, and they are not `null`. -/
theorem Form.fits_params (form : Form value request) (fits : value.Fits (depth + 1)) {params : Json}
    (given : request.params = some params) : params ≠ .null ∧ params.Fits depth := by
  cases form with
  | object =>
    obtain ⟨_, found, kept⟩ := Option.bind_eq_some_iff.mp given
    obtain ⟨rfl, filled⟩ := givenParams_eq_some_iff.mp kept
    exact ⟨filled, fits.entry (Members.mem_of_find? found)⟩
  | bareSequence => cases given
  | sequence =>
    obtain ⟨rfl, filled⟩ := givenParams_eq_some_iff.mp given
    exact ⟨filled, fits.item (by simp)⟩

end

theorem optional_anything_eq (value : Json) :
    Decoder.optional Decoder.anything value = .ok (givenParams value) := by
  cases value with
  | number number => cases number <;> rfl
  | _ => rfl

section

variable {fields : Fields Json}

theorem required_string_iff {name text : String} :
    fields.required name Decoder.string = .value text ↔
      fields.value? name = some (.string text) := by
  simp [Fields.required_eq_value_iff, Decoder.string_eq_ok_iff]

theorem withDefault_some_iff {name : String} {result : Option Json} :
    fields.withDefault name (fun value => .ok (some value)) none = .value result ↔
      fields.value? name = result := by
  rw [Fields.withDefault_eq_value_iff]
  cases fields.value? name with
  | none => simp [eq_comm]
  | some given => simp

theorem withDefault_optional_iff {name : String} {result : Option Json} :
    fields.withDefault name (Decoder.optional Decoder.anything) none = .value result ↔
      (fields.value? name).bind givenParams = result := by
  rw [Fields.withDefault_eq_value_iff]
  cases fields.value? name with
  | none => simp [eq_comm]
  | some given => simp [optional_anything_eq]

/-- The fields of a request, wherever they are found. -/
theorem readFields_eq_value_iff {request : Request} :
    (Request.mk <$> fields.required "jsonrpc" Decoder.string
      <*> fields.withDefault "id" (fun value => .ok (some value)) none
      <*> fields.required "method" Decoder.string
      <*> fields.withDefault "params" (Decoder.optional Decoder.anything) none) = .value request ↔
      fields.value? "jsonrpc" = some (.string request.version) ∧
        fields.value? "id" = request.id ∧
        fields.value? "method" = some (.string request.method) ∧
        (fields.value? "params").bind givenParams = request.params := by
  constructor
  · intro read
    obtain ⟨_, params, three, fourth, rfl⟩ := Reading.seq_eq_value_iff.mp read
    obtain ⟨_, method, two, third, rfl⟩ := Reading.seq_eq_value_iff.mp three
    obtain ⟨_, id, one, second, rfl⟩ := Reading.seq_eq_value_iff.mp two
    obtain ⟨version, first, rfl⟩ := Reading.map_eq_value_iff.mp one
    exact ⟨required_string_iff.mp first, withDefault_some_iff.mp second,
      required_string_iff.mp third, withDefault_optional_iff.mp fourth⟩
  · rintro ⟨first, second, third, fourth⟩
    have one := Reading.map_eq_value_iff.mpr
      ⟨_, required_string_iff.mpr first, Eq.refl (Request.mk request.version)⟩
    have two := Reading.seq_eq_value_iff.mpr ⟨_, _, one, withDefault_some_iff.mpr second, rfl⟩
    have three := Reading.seq_eq_value_iff.mpr ⟨_, _, two, required_string_iff.mpr third, rfl⟩
    exact Reading.seq_eq_value_iff.mpr ⟨_, _, three, withDefault_optional_iff.mpr fourth, rfl⟩

end

/-- A JSON value decodes as a request exactly when it has one of the forms. -/
theorem decode_eq_ok_iff {value : Json} {request : Request} :
    decode value = .ok request ↔ Form value request := by
  rw [decode, Decoder.record_eq_ok_iff]
  constructor
  · rintro (⟨members, shape, read⟩ | ⟨items, shape, read, count⟩)
    · obtain rfl := Json.shape_eq_map_iff.mp shape
      obtain ⟨versioned, id, named, params⟩ := readFields_eq_value_iff.mp read
      rcases request with ⟨version, id', method, params'⟩
      obtain rfl := id
      obtain rfl := params
      exact .object versioned named
    · obtain rfl := Json.shape_eq_sequence_iff.mp shape
      obtain ⟨versioned, id, named, params⟩ := readFields_eq_value_iff.mp read
      rcases request with ⟨version, id', method, params'⟩
      have positions : (["jsonrpc", "id", "method", "params"].idxOf "jsonrpc" = 0) ∧
          (["jsonrpc", "id", "method", "params"].idxOf "id" = 1) ∧
          (["jsonrpc", "id", "method", "params"].idxOf "method" = 2) ∧
          (["jsonrpc", "id", "method", "params"].idxOf "params" = 3) := by decide
      simp only [Fields.value?_listed, positions] at versioned id named params
      have few : items.length ≤ 4 := count rfl
      rcases items with _ | ⟨first, _ | ⟨second, _ | ⟨third, _ | ⟨fourth, more⟩⟩⟩⟩
      · cases versioned
      · cases named
      · cases named
      · obtain rfl := Option.some.inj versioned
        obtain rfl : some second = id' := id
        obtain rfl := Option.some.inj named
        obtain rfl : none = params' := params
        exact .bareSequence
      · obtain rfl : more = [] := by
          apply List.eq_nil_of_length_eq_zero
          simp only [List.length_cons] at few
          omega
        obtain rfl := Option.some.inj versioned
        obtain rfl : some second = id' := id
        obtain rfl := Option.some.inj named
        obtain rfl : givenParams fourth = params' := params
        exact .sequence
  · intro form
    cases form with
    | object versioned named =>
      refine .inl ⟨_, rfl, readFields_eq_value_iff.mpr ⟨versioned, rfl, named, rfl⟩⟩
    | bareSequence =>
      refine .inr ⟨_, rfl, readFields_eq_value_iff.mpr ⟨rfl, rfl, rfl, rfl⟩, ?_⟩
      simp
    | sequence =>
      refine .inr ⟨_, rfl, readFields_eq_value_iff.mpr ⟨rfl, rfl, rfl, rfl⟩, ?_⟩
      simp

end ToolGateway.Request
