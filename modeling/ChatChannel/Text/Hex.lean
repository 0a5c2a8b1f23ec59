/-!
# ChatChannel.Text.Hex

Hexadecimal digits in lower case, and numbers of a fixed width.
-/

namespace ChatChannel.Text

/-- The digit for a number below 16. -/
def hexDigit (n : Nat) : Char :=
  if n < 10 then Char.ofNat ('0'.toNat + n) else Char.ofNat ('a'.toNat + (n - 10))

/-- The last `width` digits of a number. -/
def hexDigitsOf : Nat → Nat → List Char
  | 0, _ => []
  | width + 1, n => hexDigitsOf width (n / 16) ++ [hexDigit (n % 16)]

/-- The value of a digit, in either case. -/
def hexValue (c : Char) : Option Nat :=
  if '0' ≤ c && c ≤ '9' then some (c.toNat - '0'.toNat)
  else if 'a' ≤ c && c ≤ 'f' then some (c.toNat - 'a'.toNat + 10)
  else if 'A' ≤ c && c ≤ 'F' then some (c.toNat - 'A'.toNat + 10)
  else none

end ChatChannel.Text
