import ToolGateway.Number.Binary64

/-!
# Shortest decimal digits

The text of a floating-point number uses the fewest decimal digits that read back as the same
number, and among those the nearest to its exact value. The numbers that read back as `x` fill an
interval around `x`; for one digit, two digits, and so on, the two neighbours of `x` on that decimal
grid are tested against the interval in exact arithmetic. Where `x` lies in the middle between the two,
the format says which one is taken.
-/

namespace ToolGateway

/-- The decimal number `digits * 10 ^ exponent`. -/
structure Decimal where
  digits : Nat
  exponent : Int
deriving DecidableEq, Inhabited

/-- Which of two equally near decimal numbers is taken. -/
inductive TieRule where
  /-- The one that ends in an even digit. -/
  | even
  /-- The greater one. -/
  | up
deriving DecidableEq, Inhabited

/-- Whether the lower of two equally near numbers of digits is taken. -/
def TieRule.takesLower (tie : TieRule) (digits : Nat) : Bool :=
  match tie with
  | even => digits % 2 == 0
  | up => false

namespace Binary64

/-- The power of ten of the leading digit of a number other than zero. No such number is below
`10 ^ -324`, so its `10 ^ 324`-fold has a whole part. -/
def leadingExponent (x : Binary64) : Int :=
  (Nat.toDigits 10 (x.steps * tenTo 324 / stepsPerOne)).length - 325

/-- Four times the magnitude in steps, with the ends of the interval of real numbers that round to
it. The lower half of the interval is narrower just above a power of two. -/
def interval (x : Binary64) : Nat × Nat × Nat :=
  let middle := 4 * x.steps
  let half := 2 * twoTo x.scale
  let below := if x.significand = twoTo 52 ∧ 0 < x.scale then twoTo x.scale else half
  (middle - below, middle, middle + half)

/-- The multiple of `10 ^ exponent` that reads back as `x`, the nearer one if there are two. The
ends of the interval belong to it when the significand is even. -/
def onGrid? (x : Binary64) (tie : TieRule) (exponent : Int) : Option Decimal :=
  let grow := tenTo (-exponent).toNat
  let (low, middle, high) := x.interval
  let unit := 4 * stepsPerOne * tenTo exponent.toNat
  let digits := middle * grow / unit
  let hits (d : Nat) : Bool :=
    if x.significand % 2 = 0 then low * grow ≤ d * unit && d * unit ≤ high * grow
    else low * grow < d * unit && d * unit < high * grow
  match hits digits, hits (digits + 1) with
  | true, true =>
    let below := middle * grow - digits * unit
    let above := (digits + 1) * unit - middle * grow
    if below < above ∨ (below = above ∧ tie.takesLower digits) then some ⟨digits, exponent⟩
    else some ⟨digits + 1, exponent⟩
  | true, false => some ⟨digits, exponent⟩
  | false, true => some ⟨digits + 1, exponent⟩
  | false, false => none

/-- The shortest decimal number that reads back as the magnitude of `x`. -/
def shortest (x : Binary64) (tie : TieRule) : Decimal :=
  if x.isZero then ⟨0, 0⟩
  else
    let leading := x.leadingExponent
    ((List.range 17).findSome? fun (count : Nat) => x.onGrid? tie (leading - count)).getD ⟨0, 0⟩

end Binary64

end ToolGateway
