import Parley.Text.Basic

/-!
# Log entries

What the parts of the library report besides their results. Each part has its own type of causes and
says here how grave a cause is and how it is worded.
-/

namespace Parley

/-- How grave a log entry is. -/
inductive Severity where
  | info
  | warning
  | error
  deriving DecidableEq, Repr

/-- A log entry in its wording. -/
structure LogEntry where
  severity : Severity
  wording : String
  deriving DecidableEq, Repr

/-- A text as a string. -/
def Text.str (t : Text) : String :=
  String.ofList t

/-- The entry whose wording is made of some parts. -/
def LogEntry.of (severity : Severity) (parts : List String) : LogEntry :=
  ⟨severity, String.join parts⟩

end Parley
