import MarkLine.Decimal.Double

/-!
# Shortest decimals

Every double is the rounding of a whole interval of reals. `shortest` finds the decimal with the
fewest digits in that interval, and of two with equally many digits the one nearer to the double.
-/

namespace MarkLine.Decimal

/-- A positive decimal `digits · 10 ^ exponent`. -/
structure Number where
  digits : Nat
  exponent : Int
  deriving DecidableEq, Repr, Inhabited

/-- A positive number `count · 2 ^ power` between the ends of the interval that rounds to it, all
three counted in the same unit. -/
structure Interval where
  low : Nat
  count : Nat
  high : Nat
  power : Int
  closed : Bool

/-- The reals that round to a finite double other than zero. The gap below a power of two is half as
wide as the gap above; the ends belong to the interval iff the coefficient is even. -/
def Interval.of (d : Double) : Interval :=
  let m := d.coefficient
  let narrow := m = twoTo 52 && 1 < d.exponentBits
  { low := 4 * m - (if narrow then 1 else 2)
    count := 4 * m
    high := 4 * m + 2
    power := d.power - 2
    closed := m % 2 = 0 }

/-- Numerator and denominator of `2 ^ power / 10 ^ exponent`. -/
def unitOver (power exponent : Int) : Nat × Nat :=
  (twoTo power.toNat * tenTo (-exponent).toNat, twoTo (-power).toNat * tenTo exponent.toNat)

/-- Whether `digits · 10 ^ exponent` rounds to the number of the interval. -/
def Interval.holds (i : Interval) (exponent : Int) (digits : Nat) : Bool :=
  let (num, den) := unitOver i.power exponent
  let x := digits * den
  if i.closed then i.low * num ≤ x && x ≤ i.high * num else i.low * num < x && x < i.high * num

/-- The exponent `e` with `10 ^ e ≤ x < 10 ^ (e + 1)` for the number `x` of an interval. -/
def Interval.leading (i : Interval) : Int :=
  let guess := ((Nat.log2 i.count : Int) + i.power) * 30103 / 100000
  let (num, den) := unitOver i.power guess
  if i.count * num < den then guess - 1
  else if 10 * den ≤ i.count * num then guess + 1
  else guess

/-- The neighbours of the number on the grid of decimals with `size` digits, the nearer one first,
kept if they round to it. -/
def Interval.onGrid (i : Interval) (size : Nat) : Option Number :=
  let exponent := i.leading - ((size : Int) - 1)
  let (num, den) := unitOver i.power exponent
  let below := i.count * num / den
  let rest := i.count * num % den
  let first := if 2 * rest < den || (2 * rest = den && below % 2 = 0) then below else below + 1
  let second := if first = below then below + 1 else below
  if i.holds exponent first then some ⟨first, exponent⟩
  else if i.holds exponent second then some ⟨second, exponent⟩
  else none

/-- The decimal with the fewest digits that rounds to a finite double other than zero; seventeen
digits always suffice. -/
def shortest (d : Double) : Number :=
  let i := Interval.of d
  (((List.range 17).findSome? fun n => i.onGrid (n + 1))).getD ⟨d.coefficient, 0⟩

def Number.trim (x : Number) : Number :=
  let zeros := ((Nat.toDigits 10 x.digits).reverse.takeWhile (· = '0')).length
  ⟨x.digits / tenTo zeros, x.exponent + zeros⟩

end MarkLine.Decimal
