import ToolGateway.Json.Basic
import ToolGateway.Json.ReadError

/-!
# Reading numbers

The written form of a number is its whole part, an optional fraction and an optional exponent. A
whole number that fits 64 bits stays whole; everything else becomes a floating-point number
`significand * 10 ^ exponent` in which the significand keeps the leading digits that fit 64 bits.
The significand and the power of ten are each rounded, and so is their product or quotient.
-/

namespace ToolGateway.Json

def isDigit (b : UInt8) : Bool := 0x30 ≤ b && b ≤ 0x39

def digitValue (b : UInt8) : Nat := b.toNat - 0x30

/-! ## The written form -/

/-- The parts of a number as written. An absent fraction has no digits. -/
structure NumberText where
  whole : List UInt8
  fraction : List UInt8
  /-- Whether the exponent has a minus sign, and its digits. -/
  exponent : Option (Bool × List UInt8)
deriving DecidableEq, Inhabited

theorem length_dropWhile_le (p : UInt8 → Bool) (text : List UInt8) :
    (text.dropWhile p).length ≤ text.length :=
  (List.dropWhile_sublist p).length_le

/-- Reads the digits before the point. A zero stands alone. -/
def readWhole (text : List UInt8) : Except ReadError (List UInt8 × List UInt8) :=
  match text with
  | [] => .error (.before .valueCut [])
  | b :: rest =>
    if b = 0x30 then
      if rest.head?.any isDigit then .error (.upon .numberMalformed rest) else .ok ([b], rest)
    else if isDigit b then .ok (b :: rest.takeWhile isDigit, rest.dropWhile isDigit)
    else .error (.before .numberMalformed rest)

theorem length_lt_of_readWhole {text digits rest : List UInt8}
    (h : readWhole text = .ok (digits, rest)) : rest.length < text.length := by
  unfold readWhole at h
  split at h
  · simp at h
  next b bytes =>
    have := length_dropWhile_le isDigit bytes
    split at h
    · split at h <;> simp_all
    · split at h
      · simp only [Except.ok.injEq, Prod.mk.injEq] at h
        obtain ⟨-, rfl⟩ := h
        simp only [List.length_cons]
        omega
      · simp at h

/-- Reads a point and the digits after it, if there is a point. -/
def readFraction (text : List UInt8) : Except ReadError (List UInt8 × List UInt8) :=
  match text with
  | 0x2E :: rest =>
    if rest.head?.any isDigit then .ok (rest.takeWhile isDigit, rest.dropWhile isDigit)
    else .error (.upon (if rest.isEmpty then .valueCut else .numberMalformed) rest)
  | _ => .ok ([], text)

theorem length_le_of_readFraction {text digits rest : List UInt8}
    (h : readFraction text = .ok (digits, rest)) : rest.length ≤ text.length := by
  unfold readFraction at h
  split at h
  next bytes =>
    have := length_dropWhile_le isDigit bytes
    split at h
    · simp only [Except.ok.injEq, Prod.mk.injEq] at h
      obtain ⟨-, rfl⟩ := h
      simp only [List.length_cons]
      omega
    · simp at h
  · simp_all

/-- Reads the sign of an exponent; without one it is positive. -/
def readExponentSign : List UInt8 → Bool × List UInt8
  | 0x2B :: rest => (false, rest)
  | 0x2D :: rest => (true, rest)
  | text => (false, text)

theorem length_readExponentSign_le (text : List UInt8) :
    (readExponentSign text).2.length ≤ text.length := by
  unfold readExponentSign
  split <;> simp

/-- Reads an exponent, if its letter is there. -/
def readExponent (text : List UInt8) :
    Except ReadError (Option (Bool × List UInt8) × List UInt8) :=
  match text with
  | [] => .ok (none, [])
  | letter :: rest =>
    if letter = 0x65 ∨ letter = 0x45 then
      match readExponentSign rest with
      | (_, []) => .error (.before .valueCut [])
      | (minus, b :: after) =>
        if isDigit b then
          .ok (some (minus, b :: after.takeWhile isDigit), after.dropWhile isDigit)
        else .error (.before .numberMalformed after)
    else .ok (none, text)

theorem length_le_of_readExponent {text rest : List UInt8} {exponent : Option (Bool × List UInt8)}
    (h : readExponent text = .ok (exponent, rest)) : rest.length ≤ text.length := by
  unfold readExponent at h
  split at h
  · simp_all
  next letter bytes =>
    have signed := length_readExponentSign_le bytes
    split at h
    · split at h
      · simp at h
      next minus b after found =>
        have := length_dropWhile_le isDigit after
        rw [found] at signed
        simp only [List.length_cons] at signed
        split at h
        · simp only [Except.ok.injEq, Prod.mk.injEq] at h
          obtain ⟨-, rfl⟩ := h
          simp only [List.length_cons]
          omega
        · simp at h
    · simp_all

/-- Reads the parts of a number, its minus sign taken. -/
def readNumberText (text : List UInt8) : Except ReadError (NumberText × List UInt8) := do
  let (whole, rest) ← readWhole text
  let (fraction, rest) ← readFraction rest
  let (exponent, rest) ← readExponent rest
  return (⟨whole, fraction, exponent⟩, rest)

theorem length_lt_of_readNumberText {text rest : List UInt8} {number : NumberText}
    (h : readNumberText text = .ok (number, rest)) : rest.length < text.length := by
  simp only [readNumberText, bind, Except.bind, pure, Except.pure] at h
  split at h
  · simp at h
  next parts first =>
    split at h
    · simp at h
    next parts' second =>
      split at h
      · simp at h
      next parts'' third =>
        simp only [Except.ok.injEq, Prod.mk.injEq] at h
        obtain ⟨-, rfl⟩ := h
        have := length_lt_of_readWhole first
        have := length_le_of_readFraction second
        have := length_le_of_readExponent third
        omega

/-! ## The value -/

/-- The digits of a significand as far as they fit 64 bits. -/
structure Significand where
  value : Nat
  /-- How many of the digits are in `value`. -/
  kept : Nat
  /-- How many digits came after the first one that did not fit, that one included. -/
  dropped : Nat
deriving DecidableEq, Inhabited

namespace Significand

/-- Appends digits up to the first one that would not fit. -/
def append (s : Significand) : List UInt8 → Significand
  | [] => s
  | d :: ds =>
    let next := s.value * 10 + digitValue d
    if next < wordCount64 then append { s with value := next, kept := s.kept + 1 } ds
    else { s with dropped := (d :: ds).length }

end Significand

def wholeFloat (n : Nat) : Binary64 := (Binary64.ofRatio false n 1).getD (.zero false)

def powerOfTen (exponent : Nat) : Binary64 := wholeFloat (tenTo exponent)

/-- Divides by `10 ^ 308` until the exponent is one of the format or nothing is left, at most `count`
times. -/
def lowerByTen : Nat → Binary64 → Int → Binary64 × Int
  | 0, x, exponent => (x, exponent)
  | count + 1, x, exponent =>
    if x.isZero ∨ -308 ≤ exponent then (x, exponent)
    else lowerByTen count ((x.div (powerOfTen 308)).getD x) (exponent + 308)

/-- `x * 10 ^ exponent`, by one product or by quotients with powers of ten of the format; nothing
when it is too large. -/
def scaleByTen (x : Binary64) (exponent : Int) : Option Binary64 :=
  let (x, exponent) := lowerByTen (-exponent).toNat x exponent
  if x.isZero then some x
  else if exponent < 0 then x.div (powerOfTen (-exponent).toNat)
  else if exponent ≤ 308 then x.mul (powerOfTen exponent.toNat)
  else none

/-- The value of exponent digits, or the digits after the one at which it leaves 32 bits. -/
def exponentValue (value : Nat) : List UInt8 → Except (List UInt8) Nat
  | [] => .ok value
  | d :: ds =>
    let next := value * 10 + digitValue d
    if isInt32 next then exponentValue next ds else .error ds

/-- The floating-point number of a significand and an exponent, if it is not too large. -/
def floatNumber (negative : Bool) (significand : Nat) (exponent : Int) :
    Except (List UInt8) JsonNumber :=
  match scaleByTen (wholeFloat significand) exponent with
  | some x => .ok (.float (if negative then x.neg else x))
  | none => .error []

/-- The whole number of a significand. Zero with a sign and numbers that do not fit 64 bits are
floating-point numbers. -/
def wholeNumber (negative : Bool) (s : Significand) : Except (List UInt8) JsonNumber :=
  if s.dropped ≠ 0 then floatNumber negative s.value s.dropped
  else if negative = false then .ok (.integer s.value)
  else if s.value = 0 ∨ !isInt64 (-s.value) then .ok (.float (wholeFloat s.value).neg)
  else .ok (.integer (-s.value))

/-- The value of a number. A number that is too large is reported with those of its digits that were
not looked at. An exponent beyond 32 bits makes zero or is too large. -/
def NumberText.value (number : NumberText) (negative : Bool) : Except (List UInt8) JsonNumber :=
  let whole := Significand.append ⟨0, 0, 0⟩ number.whole
  if number.fraction.isEmpty ∧ number.exponent.isNone then wholeNumber negative whole
  else
    let all := Significand.append ⟨whole.value, 0, 0⟩ number.fraction
    let exponent : Int := whole.dropped - all.kept
    match number.exponent with
    | none => floatNumber negative all.value exponent
    | some (minus, digits) =>
      match exponentValue 0 digits with
      | .ok value =>
        floatNumber negative all.value (if minus then exponent - value else exponent + value)
      | .error unread =>
        if all.value ≠ 0 ∧ minus = false then .error unread else .ok (.float (.zero negative))

end ToolGateway.Json
