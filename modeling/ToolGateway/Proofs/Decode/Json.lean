import Mathlib.Data.Set.List
import ToolGateway.Json.Document
import ToolGateway.Proofs.Decode.Record

/-!
# When JSON values decode

The outermost form of a JSON value says which value it is, up to numbers. So the decoders for
strings, for lists of strings and for records accept just the JSON values one expects.
-/

namespace ToolGateway

namespace Json

theorem shape_eq_map_iff {value : Json} {members : Members Json} :
    Document.shape value = .map members ↔ value = .object members := by
  cases value with
  | object other => simp [Document.shape]
  | number number => cases number <;> simp [Document.shape]
  | _ => simp [Document.shape]

theorem shape_eq_sequence_iff {value : Json} {items : List Json} :
    Document.shape value = .sequence items ↔ value = .array items := by
  cases value with
  | array other => simp [Document.shape]
  | number number => cases number <;> simp [Document.shape]
  | _ => simp [Document.shape]

theorem shape_eq_null_iff {value : Json} : Document.shape value = .null ↔ value = .null := by
  cases value with
  | number number => cases number <;> simp [Document.shape]
  | _ => simp [Document.shape]

end Json

namespace Decoder

theorem string_eq_ok_iff {value : Json} {text : String} :
    Decoder.string value = .ok text ↔ value = .string text := by
  cases value with
  | string other => simp [Decoder.string, Document.shape]
  | number number => cases number <;> simp [Decoder.string, Decoder.refuse, Document.shape]
  | _ => simp [Decoder.string, Decoder.refuse, Document.shape]

theorem mapM_string_eq_ok_iff {items : List Json} {texts : List String} :
    items.mapM Decoder.string = .ok texts ↔ items = texts.map .string := by
  induction items generalizing texts with
  | nil => cases texts <;> simp [pure, Except.pure]
  | cons item rest ih =>
    rw [List.mapM_cons]
    cases texts with
    | nil =>
      cases Decoder.string item with
      | error error => simp [bind, Except.bind]
      | ok text => cases rest.mapM Decoder.string <;> simp [bind, Except.bind, pure, Except.pure]
    | cons text texts =>
      rw [List.map_cons, List.cons.injEq, ← string_eq_ok_iff, ← ih]
      cases Decoder.string item with
      | error error => simp [bind, Except.bind]
      | ok text => cases rest.mapM Decoder.string <;> simp [bind, Except.bind, pure, Except.pure]

/-- Items that are all strings are the strings of some texts. -/
theorem exists_eq_map_string {items : List Json}
    (texts : ∀ item ∈ items, ∃ text, item = .string text) :
    ∃ texts : List String, items = texts.map .string := by
  have listed : items ∈ Set.range (List.map Json.string) := by
    rw [Set.range_list_map]
    intro item member
    obtain ⟨text, rfl⟩ := texts item member
    exact ⟨text, rfl⟩
  obtain ⟨found, rfl⟩ := listed
  exact ⟨found, rfl⟩

theorem list_string_eq_ok_iff {value : Json} {texts : List String} :
    Decoder.list Decoder.string value = .ok texts ↔ value = .strings texts := by
  rw [Json.strings, ← Json.shape_eq_sequence_iff, Decoder.list]
  split
  next items shape => rw [mapM_string_eq_ok_iff, shape, Shape.sequence.injEq]
  next other =>
    constructor
    · intro refused
      cases refused
    · intro shape
      exact (other _ shape).elim

/-- An optional string is `null` for none, and else a string. -/
theorem optional_string_eq_ok_iff {value : Json} {text : Option String} :
    Decoder.optional Decoder.string value = .ok text ↔ value = .ofString? text := by
  rw [Decoder.optional]
  split
  next shape =>
    obtain rfl := Json.shape_eq_null_iff.mp shape
    cases text <;> simp [Json.ofString?]
  next given =>
    have nonnull : value ≠ .null := fun same => given (Json.shape_eq_null_iff.mpr same)
    cases read : (Decoder.string value : Except DecodeError String) with
    | error error =>
      have noText : ∀ text, value ≠ .string text := by
        intro text same
        rw [string_eq_ok_iff.mpr same] at read
        cases read
      cases text <;> simp [Functor.map, Except.map, Json.ofString?, nonnull, noText]
    | ok found =>
      obtain rfl := string_eq_ok_iff.mp read
      cases text <;> simp [Functor.map, Except.map, Json.ofString?]

end Decoder

/-- A record whose further members are ignored decodes from an object exactly when its fields do. -/
theorem Decoder.record_object_eq_ok_iff {β : Type} {name : String} {names : List String}
    {read : Fields Json → Reading β} {members : Json.Object} {result : β} :
    Decoder.record name names .ignored read (.object members) = .ok result ↔
      read (.named members) = .value result := by
  rw [Decoder.record_eq_ok_iff]
  constructor
  · rintro (⟨found, shape, read⟩ | ⟨items, shape, -⟩)
    · cases Json.shape_eq_map_iff.mp shape
      exact read
    · cases Json.shape_eq_sequence_iff.mp shape
  · intro read
    exact .inl ⟨members, rfl, read⟩

/-- A record of which a single field is left to decode comes to what this field does. -/
theorem Decoder.record_object_of_ofField {β : Type} {name : String} {names : List String}
    {read : Fields Json → Reading β} {members : Json.Object} {decoded : Except DecodeError β}
    (fields : ∃ position, read (.named members) = .ofField position decoded) :
    Decoder.record name names .ignored read (.object members) = decoded := by
  obtain ⟨position, fields⟩ := fields
  show (read (.named members) <* pure ()).result = decoded
  rw [fields]
  cases decoded <;> rfl

end ToolGateway
