import ToolGateway.Proofs.Decode.Record
import ToolGateway.Proofs.Except
import ToolGateway.Toml.Basic

/-!
# When TOML values decode

A TOML value is never null, and no two kinds of values have the same outermost form, except that a date
or time looks like a table with a private key. So the decoders accept just the values one expects, and
a record without such a field is a table or an array of its fields.
-/

namespace ToolGateway.Toml

variable {β : Type} {value : Toml}

theorem string_eq_ok_iff {text : String} :
    Decoder.string value = .ok text ↔ value = .string text := by
  cases value <;> simp [Decoder.string, Decoder.refuse, Document.shape]

theorem boolean_eq_ok_iff {flag : Bool} :
    Decoder.boolean value = .ok flag ↔ value = .boolean flag := by
  cases value <;> simp [Decoder.boolean, Decoder.refuse, Document.shape]

theorem optional_eq_ok_iff {present : Decoder Toml β} {result : Option β} :
    Decoder.optional present value = .ok result ↔
      ∃ found, present value = .ok found ∧ result = some found := by
  have given : Decoder.optional present value = some <$> present value := by
    cases value <;> rfl
  rw [given]
  cases present value <;> simp [Functor.map, Except.map, eq_comm]

theorem list_eq_ok_iff {decode : Decoder Toml β} {results : List β} :
    Decoder.list decode value = .ok results ↔ ∃ items, value = .array items ∧
      List.Forall₂ (fun item result => decode item = .ok result) items results := by
  cases value with
  | array items =>
    have given : Decoder.list decode (.array items) = items.mapM decode := rfl
    rw [given, mapM_eq_ok_iff]
    simp
  | _ => simp [Decoder.list, Decoder.refuse, Document.shape]

/-! ## Records -/

section

variable {name : String} {names : List String} {read : Fields Toml → Reading β}

/-- A table is a record exactly if its fields can be read and it has no other keys. -/
theorem record_of_gives {table : Members Toml} {condition : Prop} {result : β}
    (gives : (read (.named table)).Gives condition result) {other : β} :
    Decoder.record name names .refused read (.table table) = .ok other ↔
      ((∀ member ∈ table, member.1 ∈ names) ∧ condition) ∧ other = result := by
  rw [Decoder.record_refused_eq_ok_iff rfl, gives other]
  exact and_comm.trans and_assoc.symm

/-- A record is not given as a date or a time, unless it has a field with their private key. -/
theorem exists_table_of_record (closed : datetimeKey ∉ names) {result : β}
    (decoded : Decoder.record name names .refused read value = .ok result)
    (unlisted : ∀ items, value ≠ .array items) : ∃ table, value = .table table := by
  cases value with
  | table table => exact ⟨table, rfl⟩
  | array items => exact absurd rfl (unlisted items)
  | datetime text =>
    have known := ((Decoder.record_refused_eq_ok_iff rfl).mp decoded).2
    exact absurd (known _ List.mem_cons_self) closed
  | _ => cases decoded

end

end ToolGateway.Toml
