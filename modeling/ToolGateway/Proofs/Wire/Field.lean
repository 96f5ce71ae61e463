import ToolGateway.Proofs.Text.Utf8
import ToolGateway.Wire.Field

/-!
# Reading back what is written

Numbers, keys, byte strings and whole fields of binary messages, each read from a text that begins
with what is written for it. `readFields?_texts` puts them together: the fields of a message that
fits into `2 ^ 64` bytes are read back as they were written. No larger message can be written in the
memory of a machine, but the lengths of lists have no bound, so it is named where it counts.
-/

namespace ToolGateway

namespace Wire

/-! ## Numbers -/

theorem varint_ne_nil (n : Nat) : varint n ≠ [] := by
  unfold varint
  split <;> simp

/-- With one byte for every seven bits, and the last bit in a byte of its own, a number is read
back. -/
theorem readVarintUpTo?_varint {count n : Nat} (small : n < twoTo (7 * count + 1))
    (rest : List UInt8) : readVarintUpTo? (count + 1) (varint n ++ rest) = some (n, rest) := by
  induction count generalizing n with
  | zero =>
    have bit : n = 0 ∨ n = 1 := by
      have : twoTo (7 * 0 + 1) = 2 := rfl
      omega
    rcases bit with rfl | rfl <;> simp [varint, readVarintUpTo?]
  | succ count ih =>
    unfold varint
    split
    next low =>
      have value : n.toUInt8.toNat = n := by
        simp only [Nat.toUInt8_eq, UInt8.toNat_ofNat']
        omega
      have plain : n.toUInt8 < 128 := by
        rw [UInt8.lt_iff_toNat_lt, value]
        exact low
      rw [List.singleton_append, readVarintUpTo?, if_pos plain, if_neg (by omega), value]
    next high =>
      have value : (128 + n % 128).toUInt8.toNat = 128 + n % 128 := by
        simp only [Nat.toUInt8_eq, UInt8.toNat_ofNat']
        omega
      have marked : ¬ (128 + n % 128).toUInt8 < 128 := by
        rw [UInt8.lt_iff_toNat_lt, value]
        simp
      have smaller : n / 128 < twoTo (7 * count + 1) := by
        have : twoTo (7 * (count + 1) + 1) = twoTo (7 * count + 1) * 128 :=
          Nat.pow_add 2 (7 * count + 1) 7
        omega
      have whole : 128 + n % 128 - 128 + 128 * (n / 128) = n := by omega
      rw [List.cons_append, readVarintUpTo?, if_neg marked, ih smaller, Option.map_some, value]
      simp only [whole]

theorem readVarint?_varint {n : Nat} (small : n < wordCount64) (rest : List UInt8) :
    readVarint? (varint n ++ rest) = some (n, rest) :=
  readVarintUpTo?_varint small rest

/-! ## Keys and values -/

@[simp]
theorem ofCode?_code (form : WireForm) : WireForm.ofCode? form.code = some form := by
  cases form <;> rfl

/-- A number that a field may have. -/
def IsFieldNumber (number : Nat) : Prop := 0 < number ∧ number < twoTo 29

instance (number : Nat) : Decidable (IsFieldNumber number) :=
  inferInstanceAs (Decidable (0 < number ∧ number < twoTo 29))

theorem readKey?_fieldKey {number : Nat} (valid : IsFieldNumber number) (form : WireForm)
    (rest : List UInt8) : ∃ shorter,
      readKey? (fieldKey number form ++ rest) = some (number, form, ⟨rest, shorter⟩) := by
  obtain ⟨positive, small⟩ := valid
  have limit : twoTo 29 = 536870912 := rfl
  have code : form.code < 8 := by cases form <;> decide
  have found : readVarint? (fieldKey number form ++ rest) = some (number * 8 + form.code, rest) :=
    readVarint?_varint (by simp only [wordCount64]; omega) rest
  have low : (number * 8 + form.code) % 8 = form.code := by omega
  have high : (number * 8 + form.code) / 8 = number := by omega
  have fits : number * 8 + form.code < wordCount32 ∧ 0 < number := by
    simp only [wordCount32]
    omega
  refine ⟨length_lt_of_readVarint? found, ?_⟩
  unfold readKey?
  split
  next none =>
    rw [found] at none
    cases none
  next key after read =>
    obtain ⟨rfl, rfl⟩ := Prod.mk.inj (Option.some.inj (read.symm.trans found))
    simp only [low, high, ofCode?_code, fits, and_self, if_true]

theorem takeVarint?_varint {n : Nat} (small : n < wordCount64) (rest : List UInt8) :
    ∃ le, takeVarint? (varint n ++ rest) = some (n, ⟨rest, le⟩) := by
  have found := readVarint?_varint small rest
  refine ⟨Nat.le_of_lt (length_lt_of_readVarint? found), ?_⟩
  unfold takeVarint?
  split
  next none =>
    rw [found] at none
    cases none
  next value after read =>
    obtain ⟨rfl, rfl⟩ := Prod.mk.inj (Option.some.inj (read.symm.trans found))
    rfl

theorem takeSized?_bytes {content : List UInt8} (short : content.length < wordCount64)
    (rest : List UInt8) :
    ∃ le, takeSized? (varint content.length ++ content ++ rest) = some (content, ⟨rest, le⟩) := by
  rw [List.append_assoc]
  obtain ⟨le, count⟩ := takeVarint?_varint short (content ++ rest)
  have le' : rest.length ≤ (content ++ rest).length := by simp
  have taken : takeBytes? content.length (content ++ rest) = some (content, ⟨rest, le'⟩) := by
    simp [takeBytes?]
  refine ⟨Nat.le_trans le' le, ?_⟩
  simp [takeSized?, count, taken]

/-! ## Fields -/

/-- What is written for a field. -/
def fieldText (field : WireField) : List UInt8 :=
  match field.value with
  | .varint value => varintField field.number value
  | .bytes content => bytesField field.number content
  | .other => []

/-- A field that can be written: its number is valid, and its value is a number of 64 bits or a byte
string. -/
structure Writable (field : WireField) : Prop where
  number : IsFieldNumber field.number
  value : (∃ content, field.value = .bytes content) ∨ ∃ n < wordCount64, field.value = .varint n

/-- A field is written as its key and then its value, which is read back whatever follows it. -/
theorem exists_value_of_writable {field : WireField} (writable : Writable field)
    (short : (fieldText field).length < wordCount64) :
    ∃ form payload, fieldText field = fieldKey field.number form ++ payload ∧
      ∀ depth rest, ∃ le, readValue? field.number form depth (payload ++ rest) =
        some (field.value, ⟨rest, le⟩) := by
  rcases writable.value with ⟨content, value⟩ | ⟨n, small, value⟩
  · have text : fieldText field =
        fieldKey field.number .bytes ++ (varint content.length ++ content) := by
      simp only [fieldText, value, bytesField, List.append_assoc]
    have fits : content.length < wordCount64 := by
      rw [text] at short
      simp only [List.length_append] at short
      omega
    refine ⟨.bytes, _, text, ?_⟩
    intro depth rest
    obtain ⟨le, read⟩ := takeSized?_bytes fits rest
    exact ⟨le, by rw [readValue?, read, value, Option.map_some]⟩
  · have text : fieldText field = fieldKey field.number .varint ++ varint n := by
      simp only [fieldText, value, varintField]
    refine ⟨.varint, _, text, ?_⟩
    intro depth rest
    obtain ⟨le, read⟩ := takeVarint?_varint small rest
    exact ⟨le, by rw [readValue?, read, value, Option.map_some]⟩

theorem readFieldsFrom?_texts {fields : List WireField} (writable : ∀ field ∈ fields, Writable field)
    (short : (fields.flatMap fieldText).length < wordCount64) (depth : Nat)
    (done : List WireField) :
    readFieldsFrom? depth (fields.flatMap fieldText) done = some (done.reverse ++ fields) := by
  induction fields generalizing done with
  | nil =>
    rw [List.flatMap_nil, readFieldsFrom?]
    simp
  | cons field rest ih =>
    rw [List.flatMap_cons] at short ⊢
    obtain ⟨first, others⟩ := List.forall_mem_cons.mp writable
    rw [List.length_append] at short
    obtain ⟨form, payload, text, value⟩ := exists_value_of_writable first (by omega)
    obtain ⟨le, value⟩ := value depth (rest.flatMap fieldText)
    obtain ⟨shorter, key⟩ := readKey?_fieldKey first.number form (payload ++ rest.flatMap fieldText)
    have filled : (fieldKey field.number form ++ (payload ++ rest.flatMap fieldText)).isEmpty =
        false := by
      simp [fieldKey, varint_ne_nil]
    rw [text, List.append_assoc, readFieldsFrom?, filled]
    simp only [Bool.false_eq_true, if_false, key, value]
    rw [ih others (by omega)]
    simp

/-- The fields of a message are read back as they were written. -/
theorem readFields?_texts {fields : List WireField} (writable : ∀ field ∈ fields, Writable field)
    (short : (fields.flatMap fieldText).length < wordCount64) (depth : Nat) :
    readFields? depth (fields.flatMap fieldText) = some fields :=
  readFieldsFrom?_texts writable short depth []

end Wire

end ToolGateway
