import Parley.Number.Shortest

/-!
# Floating-point numbers in writing

A number is written with its shortest digits, positionally while the exponent of the first digit stays
within the bounds of the style, and with an exponent outside them. An integral number that is shown to
players or stored in a variable is written as an integer.
-/

namespace Parley

/-- Where positional notation ends, and how an exponent is written. -/
structure NumberStyle where
  /-- The least exponent of the first digit that is written positionally. -/
  least : Int
  /-- The least exponent above which an exponent is written again. -/
  bound : Int
  /-- The digits that an exponent has at least. -/
  exponentWidth : Nat

namespace NumberStyle

/-- Numbers shown to people and kept in variables. -/
def shown : NumberStyle := ⟨-4, 16, 2⟩

/-- Numbers as they are saved. -/
def saved : NumberStyle := ⟨-5, 16, 1⟩

/-- Digits with the point behind the first `exponent + 1` of them, and at least one digit on each side. -/
def positional (digits : Text) (exponent : Int) : Text :=
  if exponent < 0 then "0.".toList ++ List.replicate (-exponent - 1).toNat '0' ++ digits
  else
    let whole := (exponent + 1).toNat
    let decimals := digits.drop whole
    digits.take whole ++ List.replicate (whole - digits.length) '0' ++ ['.']
      ++ (if decimals.isEmpty then ['0'] else decimals)

/-- Digits with the point behind the first of them, and an exponent. -/
def scientific (style : NumberStyle) (digits : Text) (exponent : Int) : Text :=
  let size := Numeral.ofNat exponent.natAbs
  let decimals := digits.drop 1
  digits.take 1 ++ (if decimals.isEmpty then [] else '.' :: decimals)
    ++ ['e', if exponent < 0 then '-' else '+']
    ++ List.replicate (style.exponentWidth - size.length) '0' ++ size

/-- A number in a style. -/
def write (style : NumberStyle) (x : Float) : Text :=
  match Exact.ofFloat? x with
  | none => if x.isNaN then "nan".toList else if x < 0 then "-inf".toList else "inf".toList
  | some v =>
    let sign := if v.negative then ['-'] else []
    if v.mantissa == 0 then sign ++ "0.0".toList
    else
      let d := Decimal.shortest v
      let digits := Numeral.ofNat d.coefficient
      let exponent := d.exponent + digits.length - 1
      sign ++ if style.least ≤ exponent && exponent < style.bound then positional digits exponent
        else scientific style digits exponent

end NumberStyle

/-- A floating-point number as it is shown. -/
def showFloat (x : Float) : Text :=
  NumberStyle.shown.write x

/-- A number as a variable holds it: an integral one as an integer. -/
def formatNumber (x : Float) : Text :=
  match (Exact.ofFloat? x).bind Exact.toInt? with
  | some n => Numeral.ofInt n
  | none => showFloat x

end Parley
