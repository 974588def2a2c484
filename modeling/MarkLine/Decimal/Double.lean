import MarkLine.Decimal.Power

/-!
# Double-precision numbers

A number with a fraction is kept as the 64 bits of its double-precision form. The bits are read as
a sign, a coefficient and a power of two, all exact, and a decimal is turned into the nearest
double by exact division: no step rounds twice.
-/

namespace MarkLine

/-- A double-precision number: one sign bit, eleven exponent bits, fifty-two fraction bits. -/
structure Double where
  bits : UInt64
  deriving DecidableEq, Repr, Inhabited

namespace Double

def isNegative (d : Double) : Bool :=
  twoTo 63 ≤ d.bits.toNat

def exponentBits (d : Double) : Nat :=
  d.bits.toNat / twoTo 52 % twoTo 11

def fractionBits (d : Double) : Nat :=
  d.bits.toNat % twoTo 52

/-- Whether the number is neither an infinity nor no number at all. -/
def isFinite (d : Double) : Bool :=
  d.exponentBits != 2047

def isNaN (d : Double) : Bool :=
  d.exponentBits == 2047 && d.fractionBits != 0

def isZero (d : Double) : Bool :=
  d.exponentBits == 0 && d.fractionBits == 0

/-- The coefficient `m` of a finite number `± m · 2 ^ q`. -/
def coefficient (d : Double) : Nat :=
  if d.exponentBits = 0 then d.fractionBits else twoTo 52 + d.fractionBits

/-- The power `q` of a finite number `± m · 2 ^ q`. -/
def power (d : Double) : Int :=
  (Nat.max 1 d.exponentBits : Int) - 1075

/-- Equality of numbers: the two zeros are equal. -/
def same (a b : Double) : Bool :=
  a == b || (a.isZero && b.isZero)

def ofFields (negative : Bool) (exponent fraction : Nat) : Double :=
  ⟨UInt64.ofNat ((if negative then twoTo 63 else 0) + exponent * twoTo 52 + fraction)⟩

def zero (negative : Bool) : Double := ofFields negative 0 0

def infinity (negative : Bool) : Double := ofFields negative 2047 0

def nan : Double := ofFields false 2047 (twoTo 51)

/-- A quotient rounded to the nearest natural number, a tie to the even one. -/
def roundDiv (num den : Nat) : Nat :=
  let whole := num / den
  let rest := num % den
  if 2 * rest < den then whole
  else if den < 2 * rest then whole + 1
  else whole + whole % 2

/-- The quotient `num / den / 2 ^ power` as a fraction of naturals. -/
def scaled (num den : Nat) (power : Int) : Nat × Nat :=
  if 0 ≤ power then (num, den * twoTo power.toNat) else (num * twoTo (-power).toNat, den)

/-- The double nearest to `num / den`, a tie to the even coefficient; too large a number becomes an
infinity. -/
def ofRatio (negative : Bool) (num den : Nat) : Double :=
  if num = 0 then zero negative
  else
    let guess := max ((Nat.log2 num : Int) - (Nat.log2 den : Int) - 53) (-1074)
    let (n, d) := scaled num den guess
    let power := if twoTo 53 ≤ n / d then guess + 1 else guess
    let (n, d) := scaled num den power
    let m := roundDiv n d
    let (m, power) := if m = twoTo 53 then (twoTo 52, power + 1) else (m, power)
    if m < twoTo 52 then ofFields negative 0 m
    else if 972 ≤ power then infinity negative
    else ofFields negative (power + 1075).toNat (m - twoTo 52)

/-- The double nearest to `digits · 10 ^ exponent`. Numbers whose size alone puts them out of range
are settled without building the power of ten. -/
def ofDecimal (negative : Bool) (digits : Nat) (exponent : Int) : Double :=
  if digits = 0 then zero negative
  else
    let size := exponent + (Nat.toDigits 10 digits).length
    if 320 < size then infinity negative
    else if size < -340 then zero negative
    else if 0 ≤ exponent then ofRatio negative (digits * tenTo exponent.toNat) 1
    else ofRatio negative digits (tenTo (-exponent).toNat)

end Double
end MarkLine
