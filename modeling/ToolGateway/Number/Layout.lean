import ToolGateway.Number.Shortest

/-!
# Layout of floating-point text

How the shortest digits of a number are laid out: where positional writing ends, whether a whole
number keeps its point, and how the exponent looks. Each format is one value of `NumberLayout`.
-/

namespace ToolGateway

/-- The decisions a format of floating-point numbers takes. -/
structure NumberLayout where
  /-- The powers of ten of the leading digit that are written positionally. -/
  positional : Int → Bool
  /-- The point and digit that end a whole number written positionally. -/
  wholeEnd : String
  /-- The sign before an exponent that is not negative. -/
  exponentSign : String
  /-- Which of two equally short and near texts is taken. -/
  tie : TieRule

namespace NumberLayout

/-- JSON text: positional from `0.00001` up to sixteen digits, always with a point or an exponent,
and an exponent always signed. -/
def wire : NumberLayout := ⟨fun leading => -5 ≤ leading && leading ≤ 15, ".0", "+", .even⟩

/-- Plain text: positional at any size, and no point in a whole number. -/
def plain : NumberLayout := ⟨fun _ => true, "", "", .up⟩

/-- Plain text in which a whole number keeps its point. -/
def pointed : NumberLayout := { plain with wholeEnd := ".0" }

def zeros (count : Nat) : String := String.ofList (List.replicate count '0')

/-- The digits `ds` with the point after the first `whole` of them, which may lie outside. -/
def place (layout : NumberLayout) (ds : List Char) (whole : Int) : String :=
  if whole ≤ 0 then "0." ++ zeros (-whole).toNat ++ String.ofList ds
  else
    let count := whole.toNat
    if ds.length ≤ count then String.ofList ds ++ zeros (count - ds.length) ++ layout.wholeEnd
    else String.ofList (ds.take count) ++ "." ++ String.ofList (ds.drop count)

/-- One digit before the point, the others after it, and the exponent. -/
def scientific (layout : NumberLayout) (ds : List Char) (leading : Int) : String :=
  let fraction := ds.drop 1
  let sign := if leading < 0 then "-" else layout.exponentSign
  String.ofList (ds.take 1) ++ (if fraction.isEmpty then "" else "." ++ String.ofList fraction)
    ++ "e" ++ sign ++ toString leading.natAbs

def text (layout : NumberLayout) (x : Binary64) : String :=
  let sign := if x.negative then "-" else ""
  let decimal := x.shortest layout.tie
  let all := Nat.toDigits 10 decimal.digits
  let leading := (all.length : Int) - 1 + decimal.exponent
  let ds := (all.reverse.dropWhile (· = '0')).reverse
  let ds := if ds.isEmpty then ['0'] else ds
  sign ++ if layout.positional leading then layout.place ds (leading + 1)
    else layout.scientific ds leading

/-- The text of any number: those that are not finite are named. -/
def extendedText (layout : NumberLayout) : Real64 → String
  | .finite x => layout.text x
  | .infinite negative => if negative then "-inf" else "inf"
  | .nan => "NaN"

end NumberLayout

end ToolGateway
