import Parley.Text.Basic

/-!
# Dialogs

A dialog is a graph of named nodes. A node is a row of lines, and a line shows something, asks a query,
tests a condition, acts on variables and functions, or marks a branch. This file holds the data, and the
questions that running a dialog asks of it.
-/

namespace Parley

/-- An answer that a player may choose, and the node it leads to. -/
structure Response where
  text : Text := []
  link : Text := []
  deriving DecidableEq, Repr, Inhabited

/-- A variable to write and the value to write to it. -/
structure Assignment where
  key : Text := []
  value : Text := []
  deriving DecidableEq, Repr, Inhabited

/-- A prompt that a window of its own shows. The chosen response decides where the dialog goes on. -/
structure Query where
  text : Text := []
  description : Text := []
  responses : List Response := []
  deriving DecidableEq, Repr, Inhabited

/-- A piece of text that is shown as an image. -/
structure InlineImage where
  textToReplace : Text := []
  image : Text := []
  scale : Float := 1
  deriving BEq, Repr, Inhabited

/-- One step of a node. -/
structure Line where
  speaker : Text := []
  text : Text := []
  portrait : Text := []
  typing : Text := []
  sound : Text := []
  voice : Text := []
  /-- The node to go to when the line is done. -/
  link : Text := []
  responses : List Response := []
  exit : Bool := false
  /-- A test of a variable, `key=value`. -/
  ifVar : Text := []
  /-- A test of a function, `name::parameter=result`. -/
  ifFunction : Text := []
  /-- A test of the number of visits, one of `<`, `>` and `=` and a number. -/
  ifDialogCount : Text := []
  /-- Whether the line begins another branch. -/
  elseIf : Bool := false
  endIf : Bool := false
  setVar : Assignment := {}
  /-- A function to call when the line runs, `name::parameter`. -/
  callFunction : Text := []
  /-- A query to ask in place of showing the line. -/
  query : Query := {}
  data : Text := []
  deriving DecidableEq, Repr, Inhabited

/-- A named row of lines. -/
structure Node where
  name : Text := []
  lines : List Line := []
  data : Text := []
  deriving DecidableEq, Repr, Inhabited

/-- A whole dialog: its nodes, and the name of the one that it starts at. -/
structure Dialog where
  start : Text := []
  nodes : List Node := []
  windowType : Text := []
  data : Text := []
  deriving DecidableEq, Repr, Inhabited

/-- A query can be asked if it has a text and something to answer. -/
def Query.isValid (q : Query) : Bool :=
  !q.text.isEmpty && !q.responses.isEmpty

namespace Line

/-- Whether a line asks for something before it goes on. -/
def hasCondition (l : Line) : Bool :=
  !l.ifVar.isEmpty || !l.ifFunction.isEmpty || l.query.isValid || !l.ifDialogCount.isEmpty

/-- Whether there is nothing to show for the line. -/
def isSilent (l : Line) : Bool :=
  l.speaker.isEmpty && l.text.isEmpty

end Line

namespace Dialog

/-- Whether the dialog holds nothing, so that it has still to be built. -/
def isEmpty (d : Dialog) : Bool :=
  d.nodes.isEmpty && d.start.isEmpty && d.windowType.isEmpty && d.data.isEmpty

/-- The first node of a name. No node answers to the empty name. -/
def node? (d : Dialog) (name : Text) : Option Node :=
  if name.isEmpty then none else d.nodes.find? (·.name == name)

/-- The node that the dialog starts at: the one its start names, or else the first one. -/
def startNode? (d : Dialog) : Option Node :=
  (d.node? d.start).or d.nodes.head?

end Dialog

end Parley
