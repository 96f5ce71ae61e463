/-!
# UTF-8

Reading one character from the front of a byte sequence. Exactly the shortest forms of the
characters are accepted: no overlong form, no surrogate, nothing beyond U+10FFFF.
-/

namespace ToolGateway.Utf8

/-- What a first byte says: how many continuation bytes follow, the leading bits of the character,
and the least character that needs this many bytes. -/
def lead? (b : UInt8) : Option (Nat × Nat × Nat) :=
  if b < 0x80 then some (0, b.toNat, 0)
  else if b < 0xC0 then none
  else if b < 0xE0 then some (1, b.toNat - 0xC0, 0x80)
  else if b < 0xF0 then some (2, b.toNat - 0xE0, 0x800)
  else if b < 0xF8 then some (3, b.toNat - 0xF0, 0x10000)
  else none

/-- Appends the bits of `count` continuation bytes to `code`. -/
def continue? : Nat → Nat → List UInt8 → Option (Nat × List UInt8)
  | 0, code, rest => some (code, rest)
  | _ + 1, _, [] => none
  | count + 1, code, b :: rest =>
    if 0x80 ≤ b ∧ b < 0xC0 then continue? count (code * 64 + (b.toNat - 0x80)) rest else none

/-- The first character and the bytes after it, if a well-formed sequence stands at the front. -/
def decode? : List UInt8 → Option (Char × List UInt8)
  | [] => none
  | b :: bytes =>
    match lead? b with
    | none => none
    | some (count, bits, least) =>
      match continue? count bits bytes with
      | none => none
      | some (code, rest) =>
        if least ≤ code ∧ code.isValidChar then some (Char.ofNat code, rest) else none

theorem length_le_of_continue? {count code : Nat} {text : List UInt8} {found : Nat}
    {rest : List UInt8} (h : continue? count code text = some (found, rest)) :
    rest.length ≤ text.length := by
  induction count generalizing code text with
  | zero => simp_all [continue?]
  | succ count ih =>
    cases text with
    | nil => simp [continue?] at h
    | cons b text =>
      simp only [continue?] at h
      split at h
      · have := ih h
        simp only [List.length_cons]
        omega
      · simp at h

/-- Reading a character takes at least one byte. -/
theorem length_lt_of_decode? {text : List UInt8} {c : Char} {rest : List UInt8}
    (h : decode? text = some (c, rest)) : rest.length < text.length := by
  cases text with
  | nil => simp [decode?] at h
  | cons b bytes =>
    simp only [decode?] at h
    split at h
    · simp at h
    split at h
    · simp at h
    next code left found =>
      split at h
      · obtain ⟨rfl, rfl⟩ := by simpa using h
        have := length_le_of_continue? found
        simp only [List.length_cons]
        omega
      · simp at h

/-- The characters of a byte sequence after those already read, if all of it is well-formed. -/
def decodeAll? (text : List UInt8) (done : List Char) : Option (List Char) :=
  match _found : decode? text with
  | some (c, rest) => decodeAll? rest (c :: done)
  | none => if text.isEmpty then some done.reverse else none
termination_by text.length
decreasing_by exact length_lt_of_decode? ‹_›

/-- The string a byte sequence encodes, if it is well-formed. -/
def string? (text : List UInt8) : Option String :=
  (decodeAll? text []).map String.ofList

def bytes (s : String) : List UInt8 :=
  s.toList.flatMap String.utf8EncodeChar

end ToolGateway.Utf8
