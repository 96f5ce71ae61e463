/-!
# Numbers of fixed width

The whole numbers that formats write in 32 or 64 bits, and the powers from which widths and scales
are made.
-/

namespace ToolGateway

def twoTo (exponent : Nat) : Nat := Nat.pow 2 exponent

theorem twoTo_pos (exponent : Nat) : 0 < twoTo exponent := Nat.two_pow_pos exponent

def tenTo (exponent : Nat) : Nat := Nat.pow 10 exponent

/-- How many numbers 32 bits hold. -/
def wordCount32 : Nat := 4294967296

/-- How many numbers 64 bits hold. -/
def wordCount64 : Nat := 18446744073709551616

/-- Whether a number is a signed number of 32 bits. -/
def isInt32 (n : Int) : Bool := -2147483648 ≤ n && n < 2147483648

/-- Whether a number is a signed number of 64 bits. -/
def isInt64 (n : Int) : Bool := -9223372036854775808 ≤ n && n < 9223372036854775808

/-- Whether a number is a number of 64 bits, signed or not. -/
def isWide (n : Int) : Bool := -9223372036854775808 ≤ n && n < 18446744073709551616

end ToolGateway
