import Parley.Dialog.Saved
import Parley.Script.Statement

/-!
# Reading a script

A script is read line by line into a dialog. Nothing makes reading fail: what means nothing is passed
over, as are lines before the first node and responses without a line to belong to.
-/

namespace Parley.Script

/-- What has been read of a script. -/
structure Draft where
  /-- The node to start at, if a line has named it. -/
  start : Text := []
  /-- The nodes that are complete, last one first. -/
  done : List Node := []
  /-- The name of the current node and its lines, last one first. -/
  current : Option (Text × List Line) := none
  deriving DecidableEq, Repr, Inhabited

namespace Draft

/-- A node from its name and its lines, last one first. -/
def close (node : Text × List Line) : Node :=
  { name := node.1, lines := node.2.reverse }

/-- The nodes read so far, last one first. -/
def nodes (d : Draft) : List Node :=
  match d.current with
  | none => d.done
  | some node => close node :: d.done

/-- A line with one more response. -/
def addResponse (l : Line) (r : Response) : Line :=
  { l with responses := l.responses ++ [r] }

/-- The draft after one more statement. When responses are `strict`, only lines that show something take
them. -/
def add (strict : Bool) (d : Draft) : Statement → Draft
  | .nothing => d
  | .start name => if d.start.isEmpty then { d with start := name } else d
  | .node name => { d with done := d.nodes, current := some (name, []) }
  | .lines ls => { d with current := d.current.map fun (name, lines) => (name, ls.reverse ++ lines) }
  | .response r =>
    match d.current with
    | some (name, l :: lines) =>
      if strict && l.isSilent then d
      else { d with current := some (name, addResponse l r :: lines) }
    | _ => d

/-- The draft after one more line of the script. -/
def addLine (strict : Bool) (d : Draft) (line : Text) : Draft :=
  d.add strict (.ofLine d.current.isSome (Text.trim line))

end Draft

/-- The dialog of a script. A start that is given goes before the one that the script names. -/
def parse (strict : Bool) (t start : Text) : Dialog :=
  let d := (Text.lines t).foldl (Draft.addLine strict) {}
  { start := if start.isEmpty then d.start else start, nodes := d.nodes.reverse }

/-- The JSON text that a script is compiled to. -/
def compile (strict : Bool) (t : Text) : Text :=
  Dialog.type.render (some 2) (parse strict t [])

end Parley.Script
