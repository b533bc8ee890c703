import Parley.Number.Exact
import Parley.Number.Numeral

/-!
# Decimal literals

A literal is a sign, digits with at most one point among or around them, and an exponent. Its value is
the floating-point number nearest to what it spells.
-/

namespace Parley

/-- The value `coefficient * 10 ^ exponent`, negated if `negative`. -/
structure Literal where
  negative : Bool
  coefficient : Nat
  exponent : Int
  deriving DecidableEq, Repr

namespace Literal

/-- The digits at the start of a text, and the rest. -/
def takeDigits (t : Text) : Text × Text :=
  (t.takeWhile Text.isDecimal, t.dropWhile Text.isDecimal)

/-- The natural number that a row of digits spells. -/
def ofDigits (ds : Text) : Nat :=
  ds.foldl (fun n c => 10 * n + (Text.digitValue? c).getD 0) 0

/-- The digits before and after the point at the start of a text, and the rest. At least one digit is
needed, and a point without digits before it needs one behind it. -/
def takeMagnitude? (t : Text) : Option ((Text × Text) × Text) :=
  match takeDigits t with
  | ([], '.' :: rest) =>
    match takeDigits rest with
    | ([], _) => none
    | (decimals, rest) => some (([], decimals), rest)
  | ([], _) => none
  | (whole, '.' :: rest) =>
    let (decimals, rest) := takeDigits rest
    some ((whole, decimals), rest)
  | (whole, rest) => some ((whole, []), rest)

/-- Whether the character introduces an exponent. -/
def isExponentMark (c : Char) : Bool :=
  c == 'e' || c == 'E'

/-- The exponent that makes up the whole text, which is empty or starts with its mark. -/
def exponent? : Text → Option Int
  | [] => some 0
  | c :: t =>
    if isExponentMark c then
      let (negative, body) := Numeral.splitSign t
      match takeDigits body with
      | ([], _) => none
      | (ds, []) => some (if negative then -(ofDigits ds : Int) else ofDigits ds)
      | _ => none
    else none

/-- The literal that a text is. -/
def parse? (t : Text) : Option Literal := do
  let (negative, body) := Numeral.splitSign t
  let ((whole, decimals), rest) ← takeMagnitude? body
  let exponent ← exponent? rest
  some ⟨negative, ofDigits (whole ++ decimals), exponent - decimals.length⟩

/-- Whether the text is a literal up to and with the mark of its exponent. -/
def endsInExponentMark (t : Text) : Bool :=
  match takeMagnitude? (Numeral.splitSign t).2 with
  | some (_, [c]) => isExponentMark c
  | _ => false

/-- The floating-point number nearest to the literal. Exponents that put it far out of range are not
carried out. -/
def toFloat (l : Literal) : Float :=
  let size : Int := (Numeral.ofNat l.coefficient).length + l.exponent
  if l.coefficient == 0 || size < -400 then Exact.nearest l.negative 0 1
  else if 400 < size then Exact.nearest l.negative (1 <<< 1024) 1
  else
    Exact.nearest l.negative (l.coefficient * Nat.pow 10 l.exponent.toNat)
      (Nat.pow 10 (-l.exponent).toNat)

end Literal

/-- The number that a text spells: a literal between blanks whose value is finite. -/
def parseNumber? (t : Text) : Option Float := do
  let l ← Literal.parse? (Text.trim t)
  let x := l.toFloat
  if x.isFinite then some x else none

end Parley
