/-!
# Digits

The value of a numeral that is given by its digits, the first one being the most significant.
-/

namespace ToolGateway

/-- The value of digits in a base; letters are digits beyond nine. -/
def digitsValue (base : Nat) (digits : List Char) : Nat :=
  digits.foldl (fun value c => value * base +
    (if c.isDigit then c.toNat - 0x30 else c.toLower.toNat - 0x61 + 10)) 0

end ToolGateway
