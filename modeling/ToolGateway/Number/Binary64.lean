import ToolGateway.Number.Word

/-!
# Binary floating-point numbers

A finite 64-bit binary floating-point number is a sign and a whole number of steps of size
`2 ^ -1074`, the smallest of the format. Every operation computes the exact quotient of two natural
numbers and rounds it once, to the nearest number of the format, a tie to the even significand.
-/

namespace ToolGateway

/-- The finite number `± significand * 2 ^ scale` steps of `2 ^ -1074`. -/
structure Binary64 where
  negative : Bool
  significand : Nat
  scale : Nat
deriving DecidableEq, Inhabited

namespace Binary64

def stepsPerOne : Nat := twoTo 1074

def steps (x : Binary64) : Nat := x.significand * twoTo x.scale

/-- A quotient rounded to the nearest natural number, a tie to the even one. -/
def divideToEven (num den : Nat) : Nat :=
  let quotient := num / den
  let twice := 2 * (num % den)
  if twice < den then quotient
  else if den < twice then quotient + 1
  else quotient + quotient % 2

/-- The number nearest to `± num / den`, or nothing when that lies beyond the largest one. -/
def ofRatio (negative : Bool) (num den : Nat) : Option Binary64 :=
  let exact := num * stepsPerOne
  let scale := (exact / den).log2 - 52
  let significand := divideToEven exact (den * twoTo scale)
  let (significand, scale) :=
    if significand = twoTo 53 then (twoTo 52, scale + 1) else (significand, scale)
  if scale ≤ 2045 then some ⟨negative, significand, scale⟩ else none

/-- Zero keeps its sign. -/
def zero (negative : Bool) : Binary64 := ⟨negative, 0, 0⟩

def isZero (x : Binary64) : Bool := x.significand == 0

def neg (x : Binary64) : Binary64 := { x with negative := !x.negative }

/-- The product, rounded once. -/
def mul (x y : Binary64) : Option Binary64 :=
  ofRatio (x.negative != y.negative) (x.steps * y.steps) (stepsPerOne * stepsPerOne)

/-- The quotient by a number other than zero, rounded once. -/
def div (x y : Binary64) : Option Binary64 :=
  ofRatio (x.negative != y.negative) x.steps y.steps

/-- The magnitude rounded to a natural number, a half away from zero. -/
def roundAwayToNat (x : Binary64) : Nat :=
  (2 * x.steps + stepsPerOne) / (2 * stepsPerOne)

end Binary64

/-- A 64-bit binary floating-point number, finite or not. -/
inductive Real64 where
  | finite (x : Binary64)
  | infinite (negative : Bool)
  | nan
deriving DecidableEq, Inhabited

namespace Real64

/-- The number nearest to `± digits * 10 ^ exponent`. Exponents far outside the format are decided
by size alone, so that no huge power is formed. -/
def ofDecimal (negative : Bool) (digits : Nat) (exponent : Int) : Real64 :=
  if digits = 0 ∨ exponent < -(400 + digits.log2) then .finite (.zero negative)
  else if 400 < exponent then .infinite negative
  else
    match Binary64.ofRatio negative (digits * tenTo exponent.toNat) (tenTo (-exponent).toNat) with
    | some x => .finite x
    | none => .infinite negative

end Real64

end ToolGateway
