import Parley.Library.Basic

/-!
# Checking the library

Whether every link in the dialogs of a library leads to a node. `problems` lists the links of a dialog
that do not, and `Library.check` goes through all dialogs.
-/

namespace Parley

/-- A link that leads nowhere. -/
inductive LinkProblem where
  | start (name : Text)
  | line (node : Text) (index : Nat) (target : Text)
  deriving DecidableEq, Repr

namespace Dialog

/-- The links of a line: its own, those of its responses, and those of its query. -/
def targets (l : Line) : List Text :=
  l.link :: l.responses.map (·.link) ++ l.query.responses.map (·.link)

/-- Whether a link is empty or the name of a node. -/
def isSound (d : Dialog) (target : Text) : Bool :=
  target.isEmpty || d.nodes.any (·.name == target)

/-- The problems of the lines of a node from an index on. -/
def lineProblems (d : Dialog) (node : Text) : (index : Nat) → List Line → List LinkProblem
  | _, [] => []
  | index, l :: ls =>
    ((targets l).filter (!d.isSound ·)).map (.line node index ·) ++ d.lineProblems node (index + 1) ls

/-- The links of a dialog that lead nowhere, in order. -/
def problems (d : Dialog) : List LinkProblem :=
  (if d.isSound d.start then [] else [.start d.start])
    ++ d.nodes.flatMap fun n => d.lineProblems n.name 0 n.lines

end Dialog

/-- What a check of a library reports. -/
inductive CheckNotice where
  | loading
  | library (n : LibraryNotice)
  | unusable (id : Text)
  | counted (id : Text) (nodes lines : Nat)
  | link (id : Text) (p : LinkProblem)
  | failed (problems : Nat)
  | passed
  deriving DecidableEq, Repr

/-- Whether a notice reports a problem of its own: a dialog that cannot be used, or a link that leads
nowhere. -/
def CheckNotice.isProblem : CheckNotice → Bool
  | .unusable _ | .link .. => true
  | _ => false

/-- How a notice of a check is logged. -/
def CheckNotice.entry : CheckNotice → LogEntry
  | .loading => .of .info ["Loading scripts..."]
  | .library n => n.entry
  | .unusable id => .of .error [id.str, ": no usable dialog"]
  | .counted id nodes lines =>
    .of .info [id.str, ": ", toString nodes, " nodes, ", toString lines, " lines"]
  | .link id (.start name) => .of .warning [id.str, ": start node '", name.str, "' does not exist"]
  | .link id (.line node index target) =>
    .of .warning
      [id.str, ": ", node.str, "[", toString index, "] links to missing node '", target.str, "'"]
  | .failed problems => .of .error ["VERIFICATION FAILED: ", toString problems, " problem(s)"]
  | .passed => .of .info ["VERIFICATION SUCCESSFUL: All scripts loaded and linked."]

namespace Library

/-- What is reported about the dialog under one id. -/
def checkId (l : Library) (id : Text) : List CheckNotice :=
  match l.get id [] with
  | .error n => [.library n, .unusable id]
  | .ok d =>
    if d.isEmpty then [.unusable id]
    else .counted id d.nodes.length (d.nodes.flatMap (·.lines)).length :: d.problems.map (.link id ·)

/-- Checks every dialog: the number of problems, and what is reported. -/
def check (l : Library) : Nat × List CheckNotice :=
  let log := l.ids.flatMap l.checkId
  let count := log.countP (·.isProblem)
  (count, log ++ [if count = 0 then .passed else .failed count])

end Library

/-- The outcome of a check: whether everything is in order, unless loading failed, and what was
reported. -/
structure Check where
  result : Except Fault Bool
  log : List CheckNotice

/-- Loads a database and checks the dialogs in it. -/
def Database.check (db : Database) : Check :=
  let l := db.load
  let log := .loading :: l.log.map .library
  match l.fault with
  | some f => ⟨.error f, log⟩
  | none =>
    let (count, more) := ({ database := l.value } : Library).check
    ⟨.ok (count == 0), log ++ more⟩

end Parley
