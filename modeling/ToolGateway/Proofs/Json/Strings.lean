import ToolGateway.Proofs.Json.Numerals
import ToolGateway.Proofs.Text.Utf8

/-!
# Reading strings follows the grammar

A string is read one character at a time, and each of them exactly as the grammar has it. A byte
that belongs to no character does not stop the reader, but then the string is refused at its end;
`reads_readString_iff` therefore speaks of the count of such bytes as well.
-/

namespace ToolGateway.Json

open Grammar

section

variable {α : Type} {bound : Nat}

/-- Whether a reader succeeds with a value and leaves a certain text. -/
def Reads (result : Except ReadError (Parsed α bound)) (value : α) (rest : List UInt8) : Prop :=
  ∃ shorter, result = .ok ⟨value, rest, shorter⟩

@[simp]
theorem reads_ok_iff {parsed : Parsed α bound} {value : α} {rest : List UInt8} :
    Reads (.ok parsed) value rest ↔ parsed.value = value ∧ parsed.rest = rest := by
  constructor
  · rintro ⟨shorter, same⟩
    rw [Except.ok.inj same]
    exact ⟨rfl, rfl⟩
  · rintro ⟨rfl, rfl⟩
    exact ⟨parsed.shorter, rfl⟩

@[simp]
theorem not_reads_error (error : ReadError) (value : α) (rest : List UInt8) :
    ¬ Reads (.error error : Except ReadError (Parsed α bound)) value rest := by
  rintro ⟨shorter, same⟩
  cases same

theorem reads_bind_iff {β : Type} {first : Except ReadError β}
    {next : β → Except ReadError (Parsed α bound)} {value : α} {rest : List UInt8} :
    Reads (first >>= next) value rest ↔ ∃ result, first = .ok result ∧
      Reads (next result) value rest := by
  cases first with
  | error error => simp [bind, Except.bind]
  | ok result => simp [bind, Except.bind]

end

theorem reads_readHex_iff {text rest : List UInt8} {n : Nat} :
    Reads (readHex text) n rest ↔ Hex text n rest := by
  constructor
  · intro read
    unfold readHex at read
    split at read
    next a b c d after =>
      split at read
      next first second third fourth =>
        obtain ⟨rfl, rfl⟩ := reads_ok_iff.mp read
        exact .mk first second third fourth
      next => exact absurd read (not_reads_error _ _ _)
    next => exact absurd read (not_reads_error _ _ _)
  · rintro ⟨first, second, third, fourth⟩
    simp only [readHex, first, second, third, fourth]
    exact ⟨_, rfl⟩

theorem reads_readPairByte_iff {expected : UInt8} {text rest : List UInt8} :
    Reads (readPairByte expected text) () rest ↔ text = expected :: rest := by
  cases text with
  | nil => simp [readPairByte]
  | cons b after =>
    by_cases same : b = expected
    · simp [readPairByte, same]
    · simp [readPairByte, same]

theorem reads_readNumericEscape_iff {text rest : List UInt8} {c : Char} :
    Reads (readNumericEscape text) c rest ↔ Escape (0x75 :: text) c rest := by
  unfold readNumericEscape
  rw [reads_bind_iff]
  constructor
  · rintro ⟨first, hex, read⟩
    have hex := reads_readHex_iff.mp ⟨first.shorter, hex⟩
    split at read
    · exact absurd read (not_reads_error _ _ _)
    next notLow =>
      split at read
      next whole =>
        obtain ⟨rfl, rfl⟩ := reads_ok_iff.mp read
        exact .code hex (by omega)
      next notWhole =>
        obtain ⟨backslash, at1, read⟩ := reads_bind_iff.mp read
        obtain ⟨letter, at2, read⟩ := reads_bind_iff.mp read
        obtain ⟨second, at3, read⟩ := reads_bind_iff.mp read
        have after := reads_readPairByte_iff.mp ⟨backslash.shorter, at1⟩
        have next := reads_readPairByte_iff.mp ⟨letter.shorter, at2⟩
        have low := reads_readHex_iff.mp ⟨second.shorter, at3⟩
        rw [after, next] at hex
        split at read
        · exact absurd read (not_reads_error _ _ _)
        next inRange =>
          obtain ⟨rfl, rfl⟩ := reads_ok_iff.mp read
          dsimp only
          exact .pair hex (by omega) low (by omega)
  · intro escape
    cases escape with
    | letter known => exact absurd known (by simp [escaped?])
    | @code _ _ n hex whole =>
      obtain ⟨_, hex⟩ := reads_readHex_iff.mpr hex
      have notLow : ¬ (0xDC00 ≤ n ∧ n ≤ 0xDFFF) := by omega
      have notPair : n < 0xD800 ∨ 0xDBFF < n := by omega
      refine ⟨_, hex, ?_⟩
      dsimp only
      rw [if_neg notLow, if_pos notPair]
      exact reads_ok_iff.mpr ⟨rfl, rfl⟩
    | @pair _ _ _ n m first high second low =>
      obtain ⟨_, first⟩ := reads_readHex_iff.mpr first
      obtain ⟨_, backslash⟩ := reads_readPairByte_iff.mpr (Eq.refl (0x5C :: _))
      obtain ⟨_, letter⟩ := reads_readPairByte_iff.mpr (Eq.refl (0x75 :: _))
      obtain ⟨_, second⟩ := reads_readHex_iff.mpr second
      have notLow : ¬ (0xDC00 ≤ n ∧ n ≤ 0xDFFF) := by omega
      have isPair : ¬ (n < 0xD800 ∨ 0xDBFF < n) := by omega
      have inRange : ¬ (m < 0xDC00 ∨ 0xDFFF < m) := by omega
      refine ⟨_, first, ?_⟩
      dsimp only
      rw [if_neg notLow, if_neg isPair]
      refine reads_bind_iff.mpr ⟨_, backslash, reads_bind_iff.mpr ⟨_, letter, reads_bind_iff.mpr
        ⟨_, second, ?_⟩⟩⟩
      dsimp only
      rw [if_neg inRange]
      exact ⟨_, rfl⟩

theorem reads_readEscape_iff {text rest : List UInt8} {c : Char} :
    Reads (readEscape text) c rest ↔ Escape text c rest := by
  cases text with
  | nil =>
    constructor
    · exact fun read => absurd read (not_reads_error _ _ _)
    · intro escape
      cases escape
  | cons b text =>
    rw [readEscape]
    split
    next numeric =>
      rw [numeric, ← reads_readNumericEscape_iff, reads_bind_iff]
      constructor
      · rintro ⟨char, read, done⟩
        obtain ⟨rfl, rfl⟩ := reads_ok_iff.mp done
        exact ⟨char.shorter, read⟩
      · rintro ⟨shorter, read⟩
        exact ⟨_, read, reads_ok_iff.mpr ⟨rfl, rfl⟩⟩
    next simple =>
      split
      next known =>
        rw [reads_ok_iff]
        constructor
        · rintro ⟨rfl, rfl⟩
          exact .letter known
        · intro escape
          cases escape with
          | letter other => exact ⟨Option.some.inj (known.symm.trans other), rfl⟩
          | code => exact absurd rfl simple
          | pair => exact absurd rfl simple
      next unknown =>
        constructor
        · exact fun read => absurd read (not_reads_error _ _ _)
        · intro escape
          cases escape with
          | letter known =>
            rw [unknown] at known
            cases known
          | code => exact absurd rfl simple
          | pair => exact absurd rfl simple

/-- A character that is read as it stands is none of those that are read otherwise. -/
theorem printed_of_decode? {b : UInt8} {text after : List UInt8} {c : Char}
    (read : Utf8.decode? (b :: text) = some (c, after)) (unquoted : b ≠ 0x22) (unescaped : b ≠ 0x5C)
    (printed : ¬ b < 0x20) : 0x20 ≤ c.toNat ∧ c.toNat ≠ 0x22 ∧ c.toNat ≠ 0x5C := by
  have written := Utf8.eq_encode_of_decode? read
  obtain ⟨first, bytes, same, range⟩ := Utf8.exists_first_encode c
  rw [same] at written
  obtain rfl := (List.cons.inj written).1
  rw [UInt8.lt_iff_toNat_lt] at printed
  rw [ne_eq, ← UInt8.toNat_inj] at unquoted unescaped
  simp only [UInt8.reduceToNat] at printed unquoted unescaped
  omega

/-- The reader of strings, in the midst of one. -/
theorem reads_readString_iff {bound : Nat} {text rest : List UInt8} {fits : text.length ≤ bound}
    {done : List Char} {bad : Option Nat} {value : String} :
    Reads (readString bound text fits done bad) value rest ↔
      bad = none ∧ ∃ content, Characters text content rest ∧
        value = String.ofList (done.reverse ++ content) := by
  constructor
  · intro read
    fun_induction readString bound text fits done bad with
    | case1 => exact absurd read (not_reads_error _ _ _)
    | case2 => exact absurd read (not_reads_error _ _ _)
    | case3 done after fits =>
      obtain ⟨rfl, rfl⟩ := reads_ok_iff.mp read
      exact ⟨rfl, [], .close, by simp⟩
    | case4 => exact absurd read (not_reads_error _ _ _)
    | case5 done bad after char escape _ _ _ ih =>
      obtain ⟨whole, content, characters, rfl⟩ := ih read
      have escape := reads_readEscape_iff.mp ⟨char.shorter, escape⟩
      refine ⟨by simpa using whole, char.value :: content, .escape escape characters, ?_⟩
      simp
    | case6 => exact absurd read (not_reads_error _ _ _)
    | case7 done bad b text _ unquoted unescaped printed c after found _ ih =>
      obtain ⟨whole, content, characters, rfl⟩ := ih read
      obtain ⟨low, quote, backslash⟩ := printed_of_decode? found unquoted unescaped printed
      refine ⟨by simpa using whole, c :: content, ?_, by simp⟩
      rw [Utf8.eq_encode_of_decode? found]
      exact .plain low quote backslash characters
    | case8 done bad b text _ _ _ _ _ _ ih =>
      obtain ⟨whole, -⟩ := ih read
      cases whole
  · rintro ⟨rfl, content, characters, rfl⟩
    induction characters generalizing done with
    | close =>
      rw [readString]
      simp
    | @plain c text rest others printed unquoted unescaped next ih =>
      obtain ⟨b, bytes, same, range⟩ := Utf8.exists_first_encode c
      have found := Utf8.decode?_encode c text
      revert fits
      rw [same, List.cons_append] at found ⊢
      intro fits
      have notQuote : b ≠ 0x22 := by
        rintro rfl
        simp at range
        omega
      have notBackslash : b ≠ 0x5C := by
        rintro rfl
        simp at range
        omega
      have notControl : ¬ b < 0x20 := by
        rw [UInt8.lt_iff_toNat_lt]
        simp
        omega
      rw [readString, if_neg notQuote, if_neg notBackslash, if_neg notControl]
      split
      next c' after found' =>
        rw [found] at found'
        obtain ⟨rfl, rfl⟩ := Prod.mk.inj (Option.some.inj found')
        simpa using @ih _ (c :: done)
      next missing =>
        rw [found] at missing
        cases missing
    | @escape c text after rest others escape next ih =>
      obtain ⟨_, escape⟩ := reads_readEscape_iff.mpr escape
      rw [readString, if_neg (by decide), if_pos rfl]
      split
      next error failed =>
        rw [escape] at failed
        cases failed
      next char found =>
        rw [escape] at found
        obtain rfl := Except.ok.inj found
        simpa using @ih _ (c :: done)

end ToolGateway.Json
