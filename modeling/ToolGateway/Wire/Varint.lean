/-!
# Variable-length numbers

A number below `2 ^ 64` in groups of seven bits, the lowest group first; every byte but the last has
its high bit set. At most ten bytes are read, and the tenth may only hold the one bit that is left.
-/

namespace ToolGateway.Wire

def varint (n : Nat) : List UInt8 :=
  if n < 128 then [n.toUInt8] else (128 + n % 128).toUInt8 :: varint (n / 128)

/-- Reads a number of at most `count` bytes; the last of them may hold a single bit. -/
def readVarintUpTo? : Nat → List UInt8 → Option (Nat × List UInt8)
  | 0, _ => none
  | _ + 1, [] => none
  | count + 1, b :: rest =>
    if b < 128 then
      if count = 0 ∧ 1 < b then none else some (b.toNat, rest)
    else
      (readVarintUpTo? count rest).map fun (high, rest) => (b.toNat - 128 + 128 * high, rest)

def readVarint? (text : List UInt8) : Option (Nat × List UInt8) := readVarintUpTo? 10 text

theorem length_lt_of_readVarintUpTo? {count : Nat} {text : List UInt8} {n : Nat}
    {rest : List UInt8} (h : readVarintUpTo? count text = some (n, rest)) :
    rest.length < text.length := by
  induction count generalizing text n with
  | zero => simp [readVarintUpTo?] at h
  | succ count ih =>
    cases text with
    | nil => simp [readVarintUpTo?] at h
    | cons b text =>
      simp only [readVarintUpTo?] at h
      split at h
      · split at h
        · simp at h
        · obtain ⟨-, rfl⟩ := by simpa using h
          simp
      · obtain ⟨⟨high, left⟩, found, same⟩ := Option.map_eq_some_iff.mp h
        obtain ⟨-, rfl⟩ := by simpa using same
        have := ih found
        simp only [List.length_cons]
        omega

theorem length_lt_of_readVarint? {text : List UInt8} {n : Nat} {rest : List UInt8}
    (h : readVarint? text = some (n, rest)) : rest.length < text.length :=
  length_lt_of_readVarintUpTo? h

end ToolGateway.Wire
