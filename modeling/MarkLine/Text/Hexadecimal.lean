/-!
# Hexadecimal digits

Code points are written in lower-case digits, without padding, and read in digits of either case.
-/

namespace MarkLine.Text

def hex (code : Nat) : List Char :=
  Nat.toDigits 16 code

def hexDigit (c : Char) : Option Nat :=
  if '0' ≤ c && c ≤ '9' then some (c.toNat - 48)
  else if 'a' ≤ c && c ≤ 'f' then some (c.toNat - 87)
  else if 'A' ≤ c && c ≤ 'F' then some (c.toNat - 55)
  else none

end MarkLine.Text
