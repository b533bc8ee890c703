import Parley.Library.Database
import Parley.Session.Agent

/-!
# The library

Dialogs by id. A dialog that is stored as JSON goes before a script of the same id.
-/

namespace Parley

/-- A database, and how its scripts are read. -/
structure Library where
  database : Database
  /-- Whether only lines that show something take responses. -/
  strict : Bool := false

namespace Library

/-- The JSON value that is stored under an id, if it is more than nothing. -/
def saved? (l : Library) (id : Text) : Option Json :=
  match l.database.dialog? id with
  | none | some .null => none
  | some j => some j

/-- The ids, in order. -/
def ids (l : Library) : List Text :=
  let dialogs := l.database.dialogs.keys
  Text.sort (dialogs ++ l.database.scripts.keys.filter fun id => !dialogs.contains id)

/-- Whether anything is stored under an id. -/
def contains (l : Library) (id : Text) : Bool :=
  (l.saved? id).isSome || (l.database.script? id).isSome

/-- The dialog of an id, with another start if one is given. -/
def get (l : Library) (id start : Text) : Except LibraryNotice Dialog :=
  match l.saved? id with
  | some j =>
    match Dialog.type.read j with
    | .ok d => .ok (if start.isEmpty then d else { d with start := start })
    | .error issues => .error (.badDialog id issues.length)
  | none =>
    match l.database.script? id with
    | some t => .ok (Script.parse l.strict t start)
    | none => .error (.unknownScript id)

/-- An agent with the dialog of an id; it goes by the id unless it is given a name. -/
def createAgent (l : Library) (id : Text) (name : Option Text) (start nickname : Text) (strict : Bool) :
    Except LibraryNotice Agent :=
  (l.get id start).map fun d =>
    { name := match name with
        | some (c :: t) => c :: t
        | _ => id
      nickname := nickname, strict := strict, source := .dialog d }

end Library

end Parley
