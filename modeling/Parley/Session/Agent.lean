import Parley.Dialog.Saved
import Parley.Log
import Parley.Script.Parse
import Parley.Text.Quoted

/-!
# Agents

An agent owns a dialog, which is built from its source when it is first needed and kept until the source
changes or the dialog is cleared. The agent's id names the counter of its visits; all agents with a
single unchanging line share one.
-/

namespace Parley

/-- Where the dialog of an agent comes from. -/
inductive Source where
  /-- A dialog that has yet to be given. -/
  | missing
  /-- A dialog. -/
  | dialog (d : Dialog)
  /-- A JSON text. -/
  | json (t : Text)
  /-- A single line. -/
  | staticText (t : Text)
  /-- A script and the start that is given with it. -/
  | script (t start : Text)
  deriving DecidableEq, Repr, Inhabited

/-- The name of a kind of source. -/
def Source.name : Source → String
  | .missing | .dialog _ => "DATA"
  | .json _ => "JSON"
  | .staticText _ => "STATIC_TEXT"
  | .script _ _ => "TEXT_SCRIPT"

/-- The line of a source that is one. -/
def Source.line : Source → Text
  | .staticText t => t
  | _ => []

/-- The start that is given with a script. -/
def Source.start : Source → Text
  | .script _ start => start
  | _ => []

/-- The owner of a dialog. -/
structure Agent where
  name : Text
  /-- The name to show, if it is not the name. -/
  nickname : Text := []
  /-- Whether only lines that show something take responses. -/
  strict : Bool := false
  id : Text := name
  /-- Whether the agent still wants to talk. -/
  enabled : Bool := true
  source : Source := .missing
  /-- The dialog, empty until it is built. -/
  dialog : Dialog := {}
  deriving DecidableEq, Repr, Inhabited

/-- Why a dialog was not built. -/
inductive BuildFailure where
  | noDialog (agent : Text)
  | noJson (agent : Text)
  | badJson (agent : Text) (issues : Nat)
  | noScript (agent : Text)
  deriving DecidableEq, Repr

/-- How a failure to build a dialog is logged. -/
def BuildFailure.entry : BuildFailure → LogEntry
  | .noDialog agent => .of .warning ["Agent '", agent.str, "' has no dialog data"]
  | .noJson agent => .of .warning ["Agent '", agent.str, "' has no dialog JSON"]
  | .badJson agent issues =>
    .of .warning ["Agent '", agent.str, "' has invalid dialog JSON: ", toString issues, " error(s)"]
  | .noScript agent => .of .warning ["Agent '", agent.str, "' has no dialog script"]

namespace Agent

/-- The id of all agents with a single unchanging line. -/
def staticId : Text := "Static Dialog".toList

/-- The name that an agent is shown under. -/
def displayName (a : Agent) : Text :=
  if a.nickname.isEmpty then a.name else a.nickname

/-- The agent with another source, from which the dialog has to be built. -/
def setSource (a : Agent) (s : Source) : Agent :=
  { a with source := s, dialog := {} }

/-- The agent with a dialog that has to be built again. -/
def clear (a : Agent) : Agent :=
  { a with dialog := {} }

/-- The agent with its dialog set and counted under an id. -/
def filled (a : Agent) (id : Text) (d : Dialog) : Agent :=
  { a with id := id, dialog := d }

/-- The dialog that is one line of a speaker. -/
def staticDialog (speaker t : Text) : Dialog :=
  { nodes := [{ lines := [{ speaker := speaker, text := t }] }] }

/-- The agent with its dialog built from its source if it is empty. The speaker says the line of a source
that is a single line. -/
def build (a : Agent) (speaker : Text) : Agent × Option BuildFailure :=
  if !a.dialog.isEmpty then (a, none)
  else
    match a.source with
    | .missing => (a.filled a.name a.dialog, some (.noDialog a.name))
    | .dialog d => (a.filled a.name d, none)
    | .json t =>
      if t.isEmpty then (a.filled a.name a.dialog, some (.noJson a.name))
      else
        match Dialog.type.parse t with
        | .ok d => (a.filled a.name d, none)
        | .error issues => (a.filled a.name a.dialog, some (.badJson a.name issues.length))
    | .staticText t => (a.filled staticId (staticDialog speaker t), none)
    | .script t start =>
      if t.isEmpty then (a.filled a.name a.dialog, some (.noScript a.name))
      else (a.filled a.name (Script.parse a.strict t start), none)

/-- The agent as it is shown to a programmer. -/
def describe (a : Agent) : Text :=
  "DialogAgent(".toList ++ Text.quoted a.name ++ ", source=".toList ++ a.source.name.toList ++ [')']

end Agent

end Parley
