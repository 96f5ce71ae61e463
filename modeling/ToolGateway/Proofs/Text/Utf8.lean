import ToolGateway.Text.Utf8

/-!
# Reading and writing characters as UTF-8

`Utf8.decode?` reads a character from the front of a text exactly when the text begins with the bytes
that `String.utf8EncodeChar` writes for it. The one direction needs that the reader refuses overlong
forms, the other that it takes every character.
-/

namespace ToolGateway.Utf8

/-! ## Continuation bytes -/

/-- A continuation byte with the given six bits. -/
def tail (bits : Nat) : UInt8 := UInt8.ofNat (bits % 64 + 128)

theorem toNat_tail (bits : Nat) : (tail bits).toNat = bits % 64 + 128 := by
  simp only [tail, UInt8.toNat_ofNat']
  omega

theorem tail_congr {bits other : Nat} (same : bits % 64 = other % 64) : tail bits = tail other := by
  rw [tail, tail, same]

theorem continue?_tail (count code bits : Nat) (rest : List UInt8) :
    continue? (count + 1) code (tail bits :: rest) =
      continue? count (code * 64 + bits % 64) rest := by
  have low : (0x80 : UInt8) ≤ tail bits ∧ tail bits < 0xC0 := by
    simp only [UInt8.le_iff_toNat_le, UInt8.lt_iff_toNat_lt, toNat_tail]
    exact ⟨by simp, by simp; omega⟩
  rw [continue?, if_pos low, toNat_tail, Nat.add_sub_cancel]

/-- What one more continuation byte reads, and that it is the byte written for those bits. -/
theorem exists_tail_of_continue? {count code found : Nat} {text rest : List UInt8}
    (read : continue? (count + 1) code text = some (found, rest)) :
    ∃ bits after, bits < 64 ∧ text = tail bits :: after ∧
      continue? count (code * 64 + bits) after = some (found, rest) := by
  cases text with
  | nil => cases read
  | cons b after =>
    rw [continue?] at read
    split at read
    next range =>
      obtain ⟨low, high⟩ := range
      simp only [UInt8.le_iff_toNat_le, UInt8.lt_iff_toNat_lt] at low high
      simp at low high
      refine ⟨b.toNat - 0x80, after, by omega, ?_, read⟩
      have same : tail (b.toNat - 0x80) = b := by
        apply UInt8.toNat_inj.mp
        rw [toNat_tail]
        omega
      rw [same]
    next => cases read

/-! ## First bytes -/

/-- What the first byte of a character says, by ranges of bytes. -/
theorem lead?_eq_some_iff {b : UInt8} {count bits least : Nat} :
    lead? b = some (count, bits, least) ↔
      (b.toNat < 0x80 ∧ count = 0 ∧ bits = b.toNat ∧ least = 0) ∨
      (0xC0 ≤ b.toNat ∧ b.toNat < 0xE0 ∧ count = 1 ∧ bits = b.toNat - 0xC0 ∧ least = 0x80) ∨
      (0xE0 ≤ b.toNat ∧ b.toNat < 0xF0 ∧ count = 2 ∧ bits = b.toNat - 0xE0 ∧ least = 0x800) ∨
      (0xF0 ≤ b.toNat ∧ b.toNat < 0xF8 ∧ count = 3 ∧ bits = b.toNat - 0xF0 ∧ least = 0x10000) := by
  simp only [lead?, UInt8.lt_iff_toNat_lt, UInt8.reduceToNat]
  have parts : ∀ {x y z : Nat}, some (x, y, z) = some (count, bits, least) →
      count = x ∧ bits = y ∧ least = z := by
    intro x y z same
    simp only [Option.some.injEq, Prod.mk.injEq] at same
    exact ⟨same.1.symm, same.2.1.symm, same.2.2.symm⟩
  constructor
  · intro read
    split at read
    next one =>
      have same := parts read
      exact .inl ⟨one, same⟩
    split at read
    · cases read
    next above =>
      have low := Nat.not_lt.mp above
      split at read
      next two =>
        have same := parts read
        exact .inr (.inl ⟨low, two, same⟩)
      next above =>
        have low := Nat.not_lt.mp above
        split at read
        next three =>
          have same := parts read
          exact .inr (.inr (.inl ⟨low, three, same⟩))
        next above =>
          have low := Nat.not_lt.mp above
          split at read
          next four =>
            have same := parts read
            exact .inr (.inr (.inr ⟨low, four, same⟩))
          next => cases read
  · rintro (h | h | h | h)
    · rw [if_pos h.1]
      simp [h.2]
    · rw [if_neg (by omega), if_neg (by omega), if_pos h.2.1]
      simp [h.2.2]
    · rw [if_neg (by omega), if_neg (by omega), if_neg (by omega), if_pos h.2.1]
      simp [h.2.2]
    · rw [if_neg (by omega), if_neg (by omega), if_neg (by omega), if_neg (by omega), if_pos h.2.1]
      simp [h.2.2]

/-! ## Characters -/

/-- The bytes of a character by its size. -/
theorem encode_eq (c : Char) :
    String.utf8EncodeChar c =
      if c.toNat < 0x80 then [UInt8.ofNat c.toNat]
      else if c.toNat < 0x800 then [UInt8.ofNat (c.toNat / 64 % 32 + 0xC0), tail c.toNat]
      else if c.toNat < 0x10000 then
        [UInt8.ofNat (c.toNat / 4096 % 16 + 0xE0), tail (c.toNat / 64), tail c.toNat]
      else
        [UInt8.ofNat (c.toNat / 262144 % 8 + 0xF0), tail (c.toNat / 4096), tail (c.toNat / 64),
          tail c.toNat] := by
  have range : ∀ n : Nat, (c.val.toNat ≤ n) = (c.toNat < n + 1) := by
    intro n
    exact propext Nat.lt_succ_iff.symm
  simp only [String.utf8EncodeChar, range]
  rfl

theorem toNat_ofNat {code : Nat} (valid : code.isValidChar) : (Char.ofNat code).toNat = code := by
  rw [Char.ofNat, dif_pos valid]
  rfl

/-- How a character is read: its first byte says how many others there are and how large it is at
least. -/
theorem decode?_cons_eq_some_iff {b : UInt8} {bytes rest : List UInt8} {c : Char} :
    decode? (b :: bytes) = some (c, rest) ↔ ∃ count bits least,
      lead? b = some (count, bits, least) ∧ continue? count bits bytes = some (c.toNat, rest) ∧
        least ≤ c.toNat := by
  rw [decode?]
  constructor
  · intro read
    split at read
    · cases read
    next count bits least first =>
      split at read
      · cases read
      next code left others =>
        split at read
        next valid =>
          cases read
          refine ⟨count, bits, least, first, ?_, ?_⟩
          · rw [toNat_ofNat valid.2]
            exact others
          · rw [toNat_ofNat valid.2]
            exact valid.1
        next => cases read
  · rintro ⟨count, bits, least, first, others, short⟩
    have valid : least ≤ c.toNat ∧ c.toNat.isValidChar := ⟨short, c.valid⟩
    simp only [first, others, if_pos valid, Char.ofNat_toNat]

theorem decode?_of_lead? {b : UInt8} {bytes rest : List UInt8} {count bits least : Nat} {c : Char}
    (first : lead? b = some (count, bits, least))
    (others : continue? count bits bytes = some (c.toNat, rest)) (short : least ≤ c.toNat) :
    decode? (b :: bytes) = some (c, rest) :=
  decode?_cons_eq_some_iff.mpr ⟨count, bits, least, first, others, short⟩

theorem toNat_lt (c : Char) : c.toNat < 0x110000 := by
  have valid := c.valid
  simp only [UInt32.isValidChar, Nat.isValidChar] at valid
  show c.val.toNat < 0x110000
  omega

/-- What is written for a character reads as that character, whatever follows. -/
theorem decode?_encode (c : Char) (rest : List UInt8) :
    decode? (String.utf8EncodeChar c ++ rest) = some (c, rest) := by
  have bound := toNat_lt c
  have value : ∀ n, n < 256 → (UInt8.ofNat n).toNat = n := by
    intro n small
    rw [UInt8.toNat_ofNat', Nat.mod_eq_of_lt small]
  simp only [encode_eq, apply_ite (· ++ rest), List.cons_append, List.nil_append]
  split
  next small =>
    have first := value c.toNat (by omega)
    apply decode?_of_lead? (lead?_eq_some_iff.mpr (.inl ⟨by omega, rfl, rfl, rfl⟩))
    · rw [first]
      rfl
    · omega
  split
  next small =>
    have first := value (c.toNat / 64 % 32 + 0xC0) (by omega)
    apply decode?_of_lead? (lead?_eq_some_iff.mpr (.inr (.inl ⟨by omega, by omega, rfl, rfl, rfl⟩)))
    · have value : (c.toNat / 64 % 32 + 0xC0 - 0xC0) * 64 + c.toNat % 64 = c.toNat := by omega
      rw [continue?_tail, continue?, first, value]
    · omega
  split
  next small =>
    have first := value (c.toNat / 4096 % 16 + 0xE0) (by omega)
    apply decode?_of_lead?
      (lead?_eq_some_iff.mpr (.inr (.inr (.inl ⟨by omega, by omega, rfl, rfl, rfl⟩))))
    · have value : ((c.toNat / 4096 % 16 + 0xE0 - 0xE0) * 64 + c.toNat / 64 % 64) * 64
          + c.toNat % 64 = c.toNat := by omega
      rw [continue?_tail, continue?_tail, continue?, first, value]
    · omega
  next large =>
    have first := value (c.toNat / 262144 % 8 + 0xF0) (by omega)
    apply decode?_of_lead?
      (lead?_eq_some_iff.mpr (.inr (.inr (.inr ⟨by omega, by omega, rfl, rfl, rfl⟩))))
    · have value : (((c.toNat / 262144 % 8 + 0xF0 - 0xF0) * 64 + c.toNat / 4096 % 64) * 64
          + c.toNat / 64 % 64) * 64 + c.toNat % 64 = c.toNat := by omega
      rw [continue?_tail, continue?_tail, continue?_tail, continue?, first, value]
    · omega

section

variable {c : Char} {high x y z : Nat}

theorem encode_two (value : c.toNat = high * 64 + x) (bits : x < 64) (long : 0x80 ≤ c.toNat)
    (short : high < 32) : String.utf8EncodeChar c = [UInt8.ofNat (high + 0xC0), tail x] := by
  have first : c.toNat / 64 % 32 = high := by omega
  have last : tail c.toNat = tail x := tail_congr (by omega)
  rw [encode_eq, if_neg (by omega), if_pos (by omega), first, last]

theorem encode_three (value : c.toNat = (high * 64 + x) * 64 + y) (bits : x < 64 ∧ y < 64)
    (long : 0x800 ≤ c.toNat) (short : high < 16) :
    String.utf8EncodeChar c = [UInt8.ofNat (high + 0xE0), tail x, tail y] := by
  have first : c.toNat / 4096 % 16 = high := by omega
  have second : tail (c.toNat / 64) = tail x := tail_congr (by omega)
  have last : tail c.toNat = tail y := tail_congr (by omega)
  rw [encode_eq, if_neg (by omega), if_neg (by omega), if_pos (by omega), first, second, last]

theorem encode_four (value : c.toNat = ((high * 64 + x) * 64 + y) * 64 + z)
    (bits : x < 64 ∧ y < 64 ∧ z < 64) (long : 0x10000 ≤ c.toNat) (short : high < 8) :
    String.utf8EncodeChar c = [UInt8.ofNat (high + 0xF0), tail x, tail y, tail z] := by
  have first : c.toNat / 262144 % 8 = high := by omega
  have second : tail (c.toNat / 4096) = tail x := tail_congr (by omega)
  have third : tail (c.toNat / 64) = tail y := tail_congr (by omega)
  have last : tail c.toNat = tail z := tail_congr (by omega)
  rw [encode_eq, if_neg (by omega), if_neg (by omega), if_neg (by omega), first, second, third,
    last]

end

theorem ofNat_add_eq {b : UInt8} {bits offset : Nat} (held : bits = b.toNat - offset)
    (above : offset ≤ b.toNat) : UInt8.ofNat (bits + offset) = b := by
  rw [held, Nat.sub_add_cancel above, UInt8.ofNat_toNat]

/-- A character is only read from the bytes that are written for it. -/
theorem eq_encode_of_decode? {text rest : List UInt8} {c : Char}
    (read : decode? text = some (c, rest)) : text = String.utf8EncodeChar c ++ rest := by
  cases text with
  | nil => cases read
  | cons b bytes =>
    obtain ⟨count, bits, least, first, others, long⟩ := decode?_cons_eq_some_iff.mp read
    -- the bounds of the first byte and the least character exclude the overlong forms
    rcases lead?_eq_some_iff.mp first with ⟨range, counted, held, -⟩ |
      ⟨low, high, counted, held, least⟩ | ⟨low, high, counted, held, least⟩ |
      ⟨low, high, counted, held, least⟩
    · rw [counted, held] at others
      obtain ⟨value, rfl⟩ := Prod.mk.inj (Option.some.inj others)
      rw [encode_eq, ← value, if_pos range, UInt8.ofNat_toNat]
      rfl
    · rw [counted] at others
      obtain ⟨x, xs, small, rfl, done⟩ := exists_tail_of_continue? others
      obtain ⟨value, rfl⟩ := Prod.mk.inj (Option.some.inj done)
      rw [encode_two value.symm small (least ▸ long) (by omega), ofNat_add_eq held low]
      rfl
    · rw [counted] at others
      obtain ⟨x, xs, xSmall, rfl, more⟩ := exists_tail_of_continue? others
      obtain ⟨y, ys, ySmall, rfl, done⟩ := exists_tail_of_continue? more
      obtain ⟨value, rfl⟩ := Prod.mk.inj (Option.some.inj done)
      rw [encode_three value.symm ⟨xSmall, ySmall⟩ (least ▸ long) (by omega), ofNat_add_eq held low]
      rfl
    · rw [counted] at others
      obtain ⟨x, xs, xSmall, rfl, more⟩ := exists_tail_of_continue? others
      obtain ⟨y, ys, ySmall, rfl, most⟩ := exists_tail_of_continue? more
      obtain ⟨z, zs, zSmall, rfl, done⟩ := exists_tail_of_continue? most
      obtain ⟨value, rfl⟩ := Prod.mk.inj (Option.some.inj done)
      rw [encode_four value.symm ⟨xSmall, ySmall, zSmall⟩ (least ▸ long) (by omega),
        ofNat_add_eq held low]
      rfl

/-- A character of one byte is that byte, and no byte of any other character is below `0x80`. -/
theorem exists_first_encode (c : Char) : ∃ b bytes, String.utf8EncodeChar c = b :: bytes ∧
    (b.toNat = c.toNat ∨ 0x80 ≤ b.toNat ∧ 0x80 ≤ c.toNat) := by
  rw [encode_eq]
  split
  next small =>
    refine ⟨_, _, rfl, .inl ?_⟩
    rw [UInt8.toNat_ofNat', Nat.mod_eq_of_lt (by omega)]
  split
  next =>
    refine ⟨_, _, rfl, .inr ⟨?_, by omega⟩⟩
    rw [UInt8.toNat_ofNat']
    omega
  split
  next =>
    refine ⟨_, _, rfl, .inr ⟨?_, by omega⟩⟩
    rw [UInt8.toNat_ofNat']
    omega
  next =>
    refine ⟨_, _, rfl, .inr ⟨?_, by omega⟩⟩
    rw [UInt8.toNat_ofNat']
    omega

/-- A byte of a character is the character itself or not below `0x80`. -/
theorem toNat_of_mem_encode {c : Char} {b : UInt8} (member : b ∈ String.utf8EncodeChar c) :
    b.toNat = c.toNat ∨ 0x80 ≤ b.toNat := by
  have tails : ∀ bits, 0x80 ≤ (tail bits).toNat := by
    intro bits
    rw [toNat_tail]
    omega
  have first : ∀ n, 0x80 ≤ n → n < 0x100 → 0x80 ≤ (UInt8.ofNat n).toNat := by
    intro n large small
    rwa [UInt8.toNat_ofNat', Nat.mod_eq_of_lt small]
  rw [encode_eq] at member
  split at member
  next small =>
    obtain rfl := List.mem_singleton.mp member
    left
    rw [UInt8.toNat_ofNat', Nat.mod_eq_of_lt (by omega)]
  right
  split at member
  · simp only [List.mem_cons, List.not_mem_nil, or_false] at member
    rcases member with rfl | rfl
    · exact first _ (by omega) (by omega)
    · exact tails _
  split at member
  · simp only [List.mem_cons, List.not_mem_nil, or_false] at member
    rcases member with rfl | rfl | rfl
    · exact first _ (by omega) (by omega)
    · exact tails _
    · exact tails _
  · simp only [List.mem_cons, List.not_mem_nil, or_false] at member
    rcases member with rfl | rfl | rfl | rfl
    · exact first _ (by omega) (by omega)
    · exact tails _
    · exact tails _
    · exact tails _

/-! ## Whole texts -/

theorem decodeAll?_encode (chars done : List Char) :
    decodeAll? (chars.flatMap String.utf8EncodeChar) done = some (done.reverse ++ chars) := by
  induction chars generalizing done with
  | nil =>
    rw [List.flatMap_nil, decodeAll?]
    simp [decode?]
  | cons c chars ih =>
    have first := decode?_encode c (chars.flatMap String.utf8EncodeChar)
    rw [List.flatMap_cons, decodeAll?]
    split
    next found =>
      obtain ⟨rfl, rfl⟩ := by simpa [first] using found
      rw [ih]
      simp
    next none =>
      rw [first] at none
      cases none

/-- The bytes of a string are read as that string. -/
theorem string?_bytes (s : String) : string? (bytes s) = some s := by
  rw [string?, bytes, decodeAll?_encode, List.reverse_nil, List.nil_append, Option.map_some,
    String.ofList_toList]

theorem bytes_append (s t : String) : bytes (s ++ t) = bytes s ++ bytes t := by
  simp [bytes]

end ToolGateway.Utf8
