import MarkLine.Decimal.Shortest

/-!
# Written numbers

A double is written from its shortest decimal. A style says up to which size the digits are written
in their places and whether larger and smaller numbers take an exponent; a whole number always keeps
a fraction, so that it can be told from an integer.
-/

namespace MarkLine.Decimal

/-- How doubles are written: numbers whose leading digit has a place from `least` to below `bound`
are written digit by digit, others with an exponent; without limits all are. -/
structure Style where
  limits : Option (Int × Int)

/-- Digits in their places: `places` is the number of digits before the point. -/
def positional (digits : List Char) (places : Int) : List Char :=
  if places ≤ 0 then
    '0' :: '.' :: (List.replicate (-places).toNat '0' ++ digits)
  else if (digits.length : Int) ≤ places then
    digits ++ List.replicate (places.toNat - digits.length) '0' ++ ['.', '0']
  else
    digits.take places.toNat ++ '.' :: digits.drop places.toNat

/-- One digit, the others after a point, and the exponent with its sign. -/
def scientific (digits : List Char) (exponent : Int) : List Char :=
  let mantissa := match digits with
    | [] => ['0']
    | [d] => [d]
    | d :: rest => d :: '.' :: rest
  let sign := if exponent < 0 then '-' else '+'
  mantissa ++ 'e' :: sign :: Nat.toDigits 10 exponent.natAbs

def Style.write (style : Style) (d : Double) : String :=
  let sign : List Char := if d.isNegative then ['-'] else []
  let body : List Char :=
    if d.isNaN then ['N', 'a', 'N']
    else if !d.isFinite then sign ++ ['i', 'n', 'f']
    else if d.isZero then sign ++ ['0', '.', '0']
    else
      let x := (shortest d).trim
      let digits := Nat.toDigits 10 x.digits
      let leading := x.exponent + digits.length - 1
      let plain := match style.limits with
        | none => true
        | some (least, bound) => least ≤ leading && leading < bound
      sign ++ (if plain then positional digits (leading + 1) else scientific digits leading)
  String.ofList body

end MarkLine.Decimal
