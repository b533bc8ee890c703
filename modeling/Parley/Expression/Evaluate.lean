import Parley.Expression.Split
import Parley.Number.Written
import Parley.Variables.Basic

/-!
# Evaluating an expression

An assignment computes a number and stores it in a variable; a comparison compares two numbers. An
operand is a variable that holds a number, or a literal. Both run in one of two modes: on real numbers,
or on whole ones, where the operands and the result are rounded. What cannot be evaluated has no result
and changes no variable.
-/

namespace Parley.Expression

/-- Whether numbers are rounded to whole ones. -/
inductive Mode where
  | real
  | whole
  deriving DecidableEq, Repr

/-- A side of an expression, with the number it stands for. -/
structure Operand where
  value : Float
  name : Text
  isVariable : Bool

/-- What a side of an expression stands for. A variable that holds a number goes before a literal. -/
def operand? (vs : Variables) (side : Text) : Option Operand :=
  let name := Text.trim side
  match (vs.get? name).bind parseNumber? with
  | some x => some ⟨x, name, true⟩
  | none => (parseNumber? name).map fun x => ⟨x, name, false⟩

/-- An expression with its operands. -/
structure Resolved where
  left : Operand
  operator : Text
  right : Operand

/-- The two sides of an operation and its operator, if both sides are operands. -/
def resolve? (vs : Variables) (operators : List Text) (t : Text) : Option Resolved := do
  let s ← split? operators (Text.trim t)
  let left ← operand? vs s.left
  let right ← operand? vs s.right
  some ⟨left, s.operator, right⟩

/-- A number as a mode counts with it. -/
def Mode.round (mode : Mode) (x : Float) : Float :=
  match mode, Exact.ofFloat? x with
  | .whole, some v => floatOfInt v.round
  | _, _ => x

/-- What is left of a division that fits a whole number of times, with the sign of the dividend. -/
def remainder (x y : Float) : Float :=
  match Exact.ofFloat? x, Exact.ofFloat? y with
  | some a, some b =>
    match Exact.remainder? a b with
    | some r => r.toFloat
    | none => 0 / 0
  | _, _ => 0 / 0

/-- The value of an arithmetic operator, which is not finite where the operation is not defined. -/
def apply (operator : Char) (x y : Float) : Float :=
  if operator = '+' then x + y
  else if operator = '-' then x - y
  else if operator = '*' then x * y
  else if operator = '/' then x / y
  else if operator = '%' then remainder x y
  else Float.pow x y

/-- The value of an operator on two operands, if it is finite. -/
def compute? (mode : Mode) (operator : Text) (x y : Float) : Option Float := do
  let operator ← operator.head?
  let value := apply operator (mode.round x) (mode.round y)
  if value.isFinite then some (mode.round value) else none

/-- A number, and the variables after it was stored. -/
structure Stored where
  value : Float
  vars : Variables

/-- The variables with a number written into one of them. -/
def store (vs : Variables) (key : Text) (value : Float) : Stored :=
  ⟨value, vs.set key (formatNumber value)⟩

/-- An assignment that changes the variable on its left. -/
def changeVariable? (mode : Mode) (vs : Variables) (t : Text) : Option Stored := do
  let r ← resolve? vs compoundOperators t
  if r.left.isVariable then
    let value ← compute? mode r.operator r.left.value r.right.value
    some (store vs r.left.name value)
  else none

/-- An assignment of a computed number to the variable before the only equals sign, which need not be
there yet. -/
def setVariable? (mode : Mode) (vs : Variables) (t : Text) : Option Stored := do
  let (target, expression) ← Text.splitPair? ['='] t
  let target := Text.trim target
  if target.isEmpty then none
  else
    let r ← resolve? vs arithmeticOperators expression
    let value ← compute? mode r.operator r.left.value r.right.value
    some (store vs target value)

/-- What an assignment stores: first it is read as an amendment, then as the setting of a variable. -/
def assign? (mode : Mode) (vs : Variables) (t : Text) : Option Stored :=
  (changeVariable? mode vs t).or (setVariable? mode vs t)

/-- How far two numbers may be apart, relative to one of them, to count as equal. -/
def tolerance : Float := 1e-6

/-- Whether two numbers differ by less than counts. -/
def isClose (x y : Float) : Bool :=
  x == y ||
    (let distance := (y - x).abs
     distance ≤ (tolerance * y).abs || distance ≤ (tolerance * x).abs)

/-- Whether a comparison holds between two numbers. -/
def holds (operator : Text) (x y : Float) : Bool :=
  if operator = "==".toList || operator = "=".toList then isClose x y
  else if operator = "!=".toList || operator = "<>".toList then !isClose x y
  else if operator = "<=".toList then x ≤ y
  else if operator = ">=".toList then y ≤ x
  else if operator = "<".toList then x < y
  else y < x

/-- Whether a comparison holds, if it can be read. -/
def compare? (mode : Mode) (vs : Variables) (t : Text) : Option Bool := do
  let r ← resolve? vs comparisonOperators t
  some (holds r.operator (mode.round r.left.value) (mode.round r.right.value))

end Parley.Expression
