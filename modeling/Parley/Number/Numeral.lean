import Parley.Text.Basic
import Parley.Text.Digit

/-!
# Integer numerals

An integer is read from a text with spacing around it, a sign in front, decimal digits of any script, and
single underscores between digits. Neither reading nor writing handles more than `Numeral.digitLimit`
digits.
-/

namespace Parley.Numeral

/-- The most digits that an integer may be read from or written with. -/
def digitLimit : Nat := 4300

/-- Why a text is not read as an integer. -/
inductive Unreadable where
  /-- It is not a numeral. -/
  | malformed
  /-- It is a numeral of this many digits, which are too many. -/
  | tooLong (digits : Nat)
  deriving DecidableEq, Repr

/-- The value and the number of the digits, given those before and whether the last character was one. -/
def magnitudeFrom (value count : Nat) (afterDigit : Bool) : Text → Option (Nat × Nat)
  | [] => if afterDigit then some (value, count) else none
  | c :: t =>
    if c = '_' then
      if afterDigit then magnitudeFrom value count false t else none
    else
      match Text.digitValue? c with
      | some d => magnitudeFrom (10 * value + d) (count + 1) true t
      | none => none

/-- Whether a leading sign makes the number negative, and the text after the sign. -/
def splitSign : Text → Bool × Text
  | '-' :: t => (true, t)
  | '+' :: t => (false, t)
  | t => (false, t)

/-- The integer that a text spells. -/
def read (t : Text) : Except Unreadable Int :=
  let (negative, body) := splitSign (Text.trimSpacing t)
  match magnitudeFrom 0 0 false body with
  | none => .error .malformed
  | some (value, count) =>
    if digitLimit < count then .error (.tooLong count)
    else .ok (if negative then -(value : Int) else value)

/-- The shortest numeral of a natural number. -/
def ofNat (n : Nat) : Text :=
  Nat.toDigits 10 n

/-- The shortest numeral of an integer, whatever its length. -/
def ofInt : Int → Text
  | .ofNat n => ofNat n
  | .negSucc n => '-' :: ofNat (n + 1)

/-- The shortest numeral of an integer, unless it has too many digits. -/
def write? (n : Int) : Option Text :=
  if digitLimit < (ofNat n.natAbs).length then none else some (ofInt n)

end Parley.Numeral
