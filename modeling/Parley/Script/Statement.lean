import Parley.Dialog.Basic
import Parley.Text.Case

/-!
# Statements of a script

A script is written line by line. A line names the node to start at, opens a node, says something, gives
a directive, offers a response to the line before it, or means nothing.
-/

namespace Parley.Script

/-- What stands between a condition or a label and the node it leads to. -/
def arrow : Text := ['=', '>']

/-- The name of a node as a script refers to it: trimmed, and without one leading number sign. -/
def formatLink (t : Text) : Text :=
  match Text.trim t with
  | '#' :: name => Text.trim name
  | name => name

/-- What a line of a script means. -/
inductive Statement where
  /-- Nothing: a blank line, a comment, or a malformed directive. -/
  | nothing
  | start (name : Text)
  | node (name : Text)
  | lines (ls : List Line)
  | response (r : Response)
  deriving DecidableEq, Repr

namespace Statement

/-- A condition that leads to a node: the test, the jump, and the end of the branch. -/
def branch (condition : Line) (target : Text) : Statement :=
  .lines [condition, { link := formatLink target }, { endIf := true }]

/-- A line under the condition of a count, from what stands behind `COUNT`. -/
def count (body : Text) : Statement :=
  match Text.splitPair? arrow body with
  | some (test, target) => branch { ifDialogCount := test.filter (· ≠ ' ') } target
  | none => .nothing

/-- The setting of a variable, from what stands behind `SET:`. -/
def set (body : Text) : Statement :=
  match Text.splitPair? ['='] body with
  | some (key, value) => .lines [{ setVar := ⟨Text.trim key, Text.trim value⟩ }]
  | none => .nothing

/-- A condition, its desired result and its target, from the body of a directive. -/
def test? (body : Text) : Option (Text × Text × Text) := do
  let (test, target) ← Text.splitPair? arrow body
  let (subject, desired) ← Text.splitPair? ['='] test
  some (subject, Text.trim desired, target)

/-- A line under the condition of a variable, from what stands behind `IF:`. -/
def ifVariable (body : Text) : Statement :=
  match test? body with
  | some (key, value, target) => branch { ifVar := Text.trim key ++ ['='] ++ value } target
  | none => .nothing

/-- The name and the parameter of a function, which a comma separates. -/
def function (t : Text) : Text × Text :=
  let (name, parameter) := (Text.cut [','] t).getD (t, [])
  (Text.trim name, Text.trim parameter)

/-- A function and its parameter as a line keeps them. -/
def call (name parameter : Text) : Text :=
  name ++ "::".toList ++ parameter

/-- A line under the condition of a function, from what stands behind `IF FUNCTION:`. -/
def ifFunction (body : Text) : Statement :=
  match test? body with
  | some (subject, desired, target) =>
    let (name, parameter) := function subject
    branch { ifFunction := call name parameter ++ ['='] ++ desired } target
  | none => .nothing

/-- The call of a function, from what stands behind `DO:`. -/
def perform (body : Text) : Statement :=
  let (name, parameter) := function body
  if name.isEmpty then .nothing else .lines [{ callFunction := call name parameter }]

/-- The response that a line with a dash offers. -/
def answer (line : Text) : Statement :=
  match Text.cut arrow line with
  | some (label, target) => .response ⟨Text.trim (label.drop 1), formatLink target⟩
  | none => .nothing

/-- The directives that take a body, tried in this order. -/
def directives : List (Text × (Text → Statement)) :=
  [("COUNT".toList, count), ("SET:".toList, set), ("IF FUNCTION:".toList, ifFunction),
   ("IF:".toList, ifVariable), ("DO:".toList, perform)]

/-- A line that is no directive. -/
def plain (line : Text) : Statement :=
  match line with
  | '#' :: name => .node (Text.trim name)
  | _ =>
    match Text.cut [':'] line with
    | some (speaker, said) => .lines [{ speaker := Text.trim speaker, text := Text.trim said }]
    | none => if line.head? = some '-' then answer line else .nothing

/-- The directive of a line, whose name may be in any letter case. -/
def directive? (line : Text) : Option Statement :=
  let capitals := Text.upper line
  match directives.find? fun d => Text.beginsWith d.1 capitals with
  | some (name, read) => some (read (line.drop name.length))
  | none => if capitals = "EXIT".toList then some (.lines [{ exit := true }]) else none

/-- What a trimmed line means. Only before the first node does an arrow name the start. -/
def ofLine (inNodes : Bool) (line : Text) : Statement :=
  if line.isEmpty || line.head? = some '/' then .nothing
  else
    match inNodes, Text.after? arrow line with
    | false, some target => .start (formatLink target)
    | _, _ => (directive? line).getD (plain line)

end Statement

end Parley.Script
