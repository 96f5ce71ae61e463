import ToolGateway.Number.Word

/-!
# User ids

The id of a user is a random identifier of 122 bits, written as 32 hexadecimal digits in five groups.
Two fixed marks in it, of four bits and of two bits, say how it was made.
-/

namespace ToolGateway.UserId

def space : Nat := twoTo 122

/-- An odd number of about the size of the space, so that successive identifiers look unlike. -/
def stride : Nat := 0x27BB2EE687B0B0FD9E3779B97F4A7C1

/-- The identifier with its two marks, as a number of 128 bits. -/
def marked (n : Nat) : Nat :=
  n / twoTo 74 * twoTo 80 + 4 * twoTo 76 + n / twoTo 62 % twoTo 12 * twoTo 64 + 2 * twoTo 62
    + n % twoTo 62

/-- The hexadecimal digits of a number, the last `count` of them. -/
def hexDigits : Nat → Nat → List Char
  | 0, _ => []
  | count + 1, n => hexDigits count (n / 16) ++ [(n % 16).digitChar]

def text (n : Nat) : String :=
  let digits := hexDigits 32 (marked (n % space))
  let group (start count : Nat) : String := String.ofList ((digits.drop start).take count)
  "-".intercalate [group 0 8, group 8 4, group 12 4, group 16 4, group 20 12]

/-- The ids given out from a random start: the strides of the start run through the whole space
before any comes back. -/
def supply (start n : Nat) : String := text (start + n * stride)

end ToolGateway.UserId
