/-!
# Floating-point numbers as exact values

A finite floating-point number is a signed natural number times a power of two. Rounding to an integer,
the remainder of a division, and the number nearest to a fraction are computed on that value, so each
is exact up to the one rounding that its name says.
-/

namespace Parley

/-- The value `mantissa * 2 ^ exponent`, negated if `negative`. -/
structure Exact where
  negative : Bool
  mantissa : Nat
  exponent : Int
  deriving DecidableEq, Repr

namespace Exact

/-- The quotient rounded to the nearest natural number, a half to the even neighbour. -/
def roundQuotient (num den : Nat) : Nat :=
  let q := num / den
  let r := num % den
  if 2 * r < den then q else if den < 2 * r then q + 1 else q + q % 2

/-- The exact value of a float, if it is finite. -/
def ofFloat? (x : Float) : Option Exact :=
  let bits := x.toBits.toNat
  let negative := bits >>> 63 == 1
  let biased : Nat := (bits >>> 52) % 2048
  let fraction := bits % 1 <<< 52
  if biased = 2047 then none
  else if biased = 0 then some ⟨negative, fraction, -1074⟩
  else some ⟨negative, 1 <<< 52 + fraction, (biased : Int) - 1075⟩

/-- The magnitude as a fraction, numerator first. -/
def fraction (x : Exact) : Nat × Nat :=
  (x.mantissa <<< x.exponent.toNat, 1 <<< (-x.exponent).toNat)

/-- The floating-point number nearest to a fraction, ties to an even mantissa; infinite when the fraction
is beyond the largest one. -/
def nearest (negative : Bool) (num den : Nat) : Float :=
  let sign := if negative then 1 <<< 63 else 0
  if num == 0 then Float.ofBits (UInt64.ofNat sign)
  else
    let estimate : Int := (num.log2 : Int) - den.log2
    let below := num <<< (-estimate).toNat < den <<< estimate.toNat
    let exponent : Int := max ((if below then estimate - 1 else estimate) - 52) (-1074)
    let mantissa := roundQuotient (num <<< (-exponent).toNat) (den <<< exponent.toNat)
    let magnitude := (exponent + 1074).toNat <<< 52 + mantissa
    Float.ofBits (UInt64.ofNat (sign + min magnitude (2047 <<< 52)))

/-- The floating-point number nearest to the value. -/
def toFloat (x : Exact) : Float :=
  let (num, den) := x.fraction
  nearest x.negative num den

/-- The integer nearest to the value, a half to the even neighbour. -/
def round (x : Exact) : Int :=
  let (num, den) := x.fraction
  let n : Nat := roundQuotient num den
  if x.negative then -(n : Int) else n

/-- The integer that an exact value is, if it is one. -/
def toInt? (x : Exact) : Option Int :=
  let (num, den) := x.fraction
  if num % den == 0 then
    let n : Nat := num / den
    some (if x.negative then -(n : Int) else n)
  else none

/-- What is left of `x` after taking away `y` as often as it fits, with the sign of `x`; none when `y` is
zero. -/
def remainder? (x y : Exact) : Option Exact :=
  if y.mantissa == 0 then none
  else
    let exponent := min x.exponent y.exponent
    let a := x.mantissa <<< (x.exponent - exponent).toNat
    let b := y.mantissa <<< (y.exponent - exponent).toNat
    some ⟨x.negative, a % b, exponent⟩

end Exact

/-- The floating-point number nearest to an integer. -/
def floatOfInt (n : Int) : Float :=
  Exact.nearest (n < 0) n.natAbs 1

end Parley
