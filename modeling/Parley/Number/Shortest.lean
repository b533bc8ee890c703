import Parley.Number.Exact
import Parley.Number.Numeral

/-!
# The shortest decimal of a floating-point number

Among the decimals that read back as a given positive number, one with the fewest digits, and among
those the nearest. The search runs over decimal grids of 1, 2, … 17 digits; on each grid only the two
neighbours of the number can be nearest to it.
-/

namespace Parley

/-- The value `coefficient * 10 ^ exponent`. -/
structure Decimal where
  coefficient : Nat
  exponent : Int
  deriving DecidableEq, Repr

namespace Decimal

/-- The number of decimal digits of a natural number; zero has none. -/
def digitCount (n : Nat) : Nat :=
  if n == 0 then 0 else (Numeral.ofNat n).length

/-- The exponent of the first digit of a positive fraction. -/
def leadingExponent (num den : Nat) : Int :=
  if den ≤ num then (digitCount (num / den) : Int) - 1
  else -(digitCount ((den + num - 1) / num - 1) : Int)

/-- Four times the numbers halfway to the neighbours of a mantissa. Below a power of two the gap is half
as wide. -/
def quadrupledEnds (mantissa : Nat) (exponent : Int) : Nat × Nat :=
  let gap := if mantissa == 1 <<< 52 && exponent > -1074 then 1 else 2
  (4 * mantissa - gap, 4 * mantissa + 2)

/-- The neighbour of `mantissa * 2 ^ exponent` on the decimal grid of the given spacing that reads back as
it, the nearer one if both do. -/
def onGrid? (mantissa : Nat) (exponent spacing : Int) : Option Decimal :=
  let up := Nat.pow 10 (-spacing).toNat <<< exponent.toNat
  let down := 4 * Nat.pow 10 spacing.toNat <<< (-exponent).toNat
  let (low, high) := quadrupledEnds mantissa exponent
  let readsBack (d : Nat) : Bool :=
    if mantissa % 2 == 0 then low * up ≤ d * down && d * down ≤ high * up
    else low * up < d * down && d * down < high * up
  let d := 4 * mantissa * up / down
  match readsBack d, readsBack (d + 1) with
  | true, true => some ⟨if 8 * mantissa * up ≤ (2 * d + 1) * down then d else d + 1, spacing⟩
  | true, false => some ⟨d, spacing⟩
  | false, true => some ⟨d + 1, spacing⟩
  | false, false => none

/-- The same value without trailing zeros in the coefficient, of which at most `fuel` are taken off. -/
def stripZeros : (fuel : Nat) → Decimal → Decimal
  | 0, d => d
  | fuel + 1, d =>
    if d.coefficient != 0 && d.coefficient % 10 == 0 then
      stripZeros fuel ⟨d.coefficient / 10, d.exponent + 1⟩
    else d

/-- The shortest decimal that reads back as the magnitude of a value other than zero. -/
def shortest (x : Exact) : Decimal :=
  let (num, den) := x.fraction
  let leading := leadingExponent num den
  let found := (List.range 17).findSome? fun n : Nat => onGrid? x.mantissa x.exponent (leading - n)
  stripZeros 17 (found.getD ⟨x.mantissa, x.exponent⟩)

end Decimal

end Parley
