import Parley.Number.Literal

/-!
# Splitting an expression

An expression has one operator of a family with an operand on each side. The operators of a family are
tried longest first, so that a longer one is never read as a shorter one and something more. A plus or
minus at the start of an operand, or behind the mark of an exponent, is a sign and no operator.
-/

namespace Parley.Expression

/-- The operators that change the variable on their left. -/
def compoundOperators : List Text :=
  ["+=", "-=", "/=", "*=", "%=", "^="].map String.toList

/-- The operators that make a number of two. -/
def arithmeticOperators : List Text :=
  ["+", "-", "/", "*", "%", "^"].map String.toList

/-- The operators that compare two numbers. -/
def comparisonOperators : List Text :=
  ["==", "<=", ">=", "!=", "<>", "=", "<", ">"].map String.toList

/-- An expression in its parts. -/
structure Split where
  left : Text
  operator : Text
  right : Text
  deriving DecidableEq, Repr

/-- Whether a character is a sign, given the part of its operand that stands before it, last character
first. -/
def isSign (before : Text) (c : Char) : Bool :=
  (c == '+' || c == '-') &&
    (let pending := Text.trim before.reverse
     pending.isEmpty || Literal.endsInExponentMark pending)

/-- The first of the operators that the text begins with, and the rest. -/
def operatorAt? (operators : List Text) (t : Text) : Option (Text × Text) :=
  operators.findSome? fun o => (Text.after? o t).map fun rest => (o, rest)

/-- The operand before the first operator, that operator, and the rest; `before` is what of the operand
has been read, last character first. -/
def cutFrom (operators : List Text) (before : Text) : Text → Option (Text × Text × Text)
  | [] => none
  | c :: t =>
    if isSign before c then cutFrom operators (c :: before) t
    else
      match operatorAt? operators (c :: t) with
      | some (o, rest) => some (before.reverse, o, rest)
      | none => cutFrom operators (c :: before) t

/-- The operators in the order in which they are tried: longer ones first, else as given. -/
def byLength (operators : List Text) : List Text :=
  operators.mergeSort fun a b => b.length ≤ a.length

/-- The parts of an expression with exactly one operator of the family and an operand on each side. -/
def split? (operators : List Text) (t : Text) : Option Split := do
  let sorted := byLength operators
  let (left, o, rest) ← cutFrom sorted [] t
  if (cutFrom sorted [] rest).isSome then none
  else
    let left := Text.trim left
    let right := Text.trim rest
    if left.isEmpty || right.isEmpty then none else some ⟨left, o, right⟩

end Parley.Expression
