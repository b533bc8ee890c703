import Parley.Library.Files
import Parley.Library.Schema
import Parley.Text.Order

/-!
# The database

The sources of the dialogs in a data folder: JSON values that a schema accepts, and scripts. Both go by
the names of their files. A file that cannot be read is reported and passed over; only one whose bytes
are no text, or whose values have too many digits or nest too deep, makes loading fail.
-/

namespace Parley

/-- What loading reports. -/
inductive LibraryNotice where
  | unreadableSchema (path : Text)
  | missingFolder (path : Text)
  | missingSchema (name : Text)
  | invalidFile (path : Text)
  | unreadableFile (path : Text)
  | invalidDialog
  /-- A dialog has this many issues. -/
  | badDialog (id : Text) (issues : Nat)
  | unknownScript (id : Text)
  deriving DecidableEq, Repr

/-- How a notice of the library is logged. -/
def LibraryNotice.entry : LibraryNotice → LogEntry
  | .unreadableSchema path => .of .error ["Failed to load schema ", path.str]
  | .missingFolder path => .of .warning ["Data directory not found: ", path.str]
  | .missingSchema name => .of .warning ["No schema found for dialog (", name.str, ")"]
  | .invalidFile path => .of .error ["Validation error in ", path.str]
  | .unreadableFile path => .of .error ["Failed to load ", path.str]
  | .invalidDialog => .of .warning ["Dialog failed validation"]
  | .badDialog id issues =>
    .of .warning ["Dialog '", id.str, "' failed to load: ", toString issues, " error(s)"]
  | .unknownScript id => .of .warning ["Dialog script not found: ", id.str]

/-- The sources of dialogs. -/
structure Database where
  location : Text
  folder : Option Entry
  /-- How deep the values in its files may nest. -/
  room : Json.Room := .usual
  /-- The schemas that have been loaded, by file name; none for a file that holds nothing. -/
  schemas : Table Text (Option Schema) := Table.empty
  dialogs : Table Text Json := Table.empty
  scripts : Table Text Text := Table.empty

/-- A result with what was reported on the way to it, and the fault that kept the way short. -/
structure Loading (α : Type) where
  value : α
  log : List LibraryNotice
  fault : Option Fault

namespace Loading

variable {α β : Type}

/-- The loading with one more report in front. -/
def after (l : Loading α) (n : LibraryNotice) : Loading α :=
  { l with log := n :: l.log }

/-- The loading with another result made of its own. -/
def map (f : α → β) (l : Loading α) : Loading β :=
  ⟨f l.value, l.log, l.fault⟩

/-- One loading after another; the second one begins only if nothing went wrong. -/
def bind (l : Loading α) (f : α → Loading α) : Loading α :=
  match l.fault with
  | some _ => l
  | none =>
    let next := f l.value
    { next with log := l.log ++ next.log }

end Loading

namespace Database

/-- The name of the schema of dialogs. -/
def dialogSchema : Text := "dialog.schema.json".toList

/-- The way from the data folder to the dialogs. -/
def dialogPath : Path := ["database".toList, "dialog".toList]

/-- The way from the data folder to the schemas. -/
def schemaPath : Path := ["schemas".toList]

/-- The path of an entry as reports name it. -/
def fullPath (db : Database) (p : Path) : Text :=
  Path.toText (db.location :: p)

/-- The entry of the data folder at a path. -/
def find? (db : Database) (p : Path) : Option Entry :=
  db.folder.bind (·.find? p)

/-- Whether a name ends in a suffix. -/
def endsIn (suffix name : Text) : Bool :=
  Text.beginsWith suffix.reverse name.reverse

/-- The entries whose names end in a suffix, by name. -/
def matching (suffix : Text) (e : Entry) : List (Text × Entry) :=
  (e.entries.filter fun x => endsIn suffix x.1).mergeSort fun a b => Text.isBefore a.1 b.1

/-- What a file gives: a fault that ends loading, a report, or a value. -/
abbrev FileResult (α : Type) := Except Fault (Except LibraryNotice α)

/-- What reading a file gives: a fault, unless it is one that is only reported. -/
def resultOf {α : Type} (unreadable : LibraryNotice) (r : Except Unreadable α) : FileResult α :=
  match r with
  | .ok x => .ok (.ok x)
  | .error .notFile | .error (.fault .malformedJson) => .ok (.error unreadable)
  | .error (.fault f) => .error f

/-- Reads files one after another into a table, under keys made of their names. A key that is there
already is read again only if `again` says so. -/
def collect {α : Type} (again : Bool) (key : Text → Text) (read : Text → Entry → FileResult α) :
    List (Text × Entry) → Table Text α → Loading (Table Text α)
  | [], t => ⟨t, [], none⟩
  | (name, e) :: rest, t =>
    if !again && t.contains (key name) then collect again key read rest t
    else
      match read name e with
      | .error f => ⟨t, [], some f⟩
      | .ok (.error n) => (collect again key read rest t).after n
      | .ok (.ok x) => collect again key read rest (t.set (key name) x)

/-- The schema in a file. -/
def readSchema (db : Database) (name : Text) (e : Entry) : FileResult (Option Schema) :=
  resultOf (.unreadableSchema (db.fullPath (schemaPath ++ [name]))) ((e.readJson db.room).map Schema.ofJson?)

/-- The schemas: the one of dialogs, and those of the data folder, which go before it. -/
def loadSchemas (db : Database) : Loading Database :=
  let own := Table.ofList [(dialogSchema, some Schema.dialog)]
  match db.find? schemaPath with
  | none => ⟨{ db with schemas := own }, [], none⟩
  | some e =>
    (collect true id db.readSchema (matching ".schema.json".toList e) own).map fun schemas =>
      { db with schemas := schemas }

/-- The JSON value in a file, if the schema accepts it. -/
def readDialog (db : Database) (schema : Schema) (name : Text) (e : Entry) : FileResult Json :=
  let path := db.fullPath (dialogPath ++ [name])
  match resultOf (.unreadableFile path) (e.readJson db.room) with
  | .ok (.ok j) => if schema.accepts j then .ok (.ok j) else .ok (.error (.invalidFile path))
  | other => other

/-- The schema of dialogs, if there is one. -/
def schema? (db : Database) : Option Schema :=
  (db.schemas.get? dialogSchema).join

/-- The saved dialogs in the data folder that the schema accepts. -/
def loadDialogs (db : Database) : Loading (Table Text Json) :=
  match db.find? dialogPath, db.schema? with
  | none, _ => ⟨Table.empty, [.missingFolder (db.fullPath dialogPath)], none⟩
  | some _, none => ⟨Table.empty, [.missingSchema dialogSchema], none⟩
  | some e, some schema =>
    collect true Path.stem (db.readDialog schema) (matching ".json".toList e) Table.empty

/-- The text of a script file. -/
def readScript (db : Database) (name : Text) (e : Entry) : FileResult Text :=
  resultOf (.unreadableFile (db.fullPath (dialogPath ++ [name]))) e.readText

/-- The scripts of the data folder; of two files that differ in their suffix only, the first kind is
taken. -/
def loadScripts (db : Database) : Loading (Table Text Text) :=
  match db.find? dialogPath with
  | none => ⟨Table.empty, [], none⟩
  | some e =>
    (collect false Path.stem db.readScript (matching ".dlg".toList e) Table.empty).bind
      (collect false Path.stem db.readScript (matching ".txt".toList e))

/-- The database with something put in place once it is loaded whole. -/
def put {α : Type} (db : Database) (l : Loading α) (f : Database → α → Database) : Loading Database :=
  ⟨if l.fault.isSome then db else f db l.value, l.log, l.fault⟩

/-- The database with everything in its folder loaded. -/
def load (db : Database) : Loading Database :=
  (db.loadSchemas.bind fun db => db.put db.loadDialogs fun db t => { db with dialogs := t }).bind
    fun db => db.put db.loadScripts fun db t => { db with scripts := t }

/-- The database with its schemas loaded, if they are not. -/
def withSchemas (db : Database) : Loading Database :=
  if db.schemas.size = 0 then db.loadSchemas else ⟨db, [], none⟩

/-- Whether the schema accepts a value. The schemas are loaded for it, if they have not been. -/
def validate (db : Database) (j : Json) : Loading (Database × Bool) :=
  let l := db.withSchemas
  match l.fault, l.value.schema? with
  | some _, _ | none, none => l.map fun db => (db, false)
  | none, some schema =>
    if schema.accepts j then l.map fun db => (db, true)
    else ⟨(l.value, false), l.log ++ [.invalidDialog], none⟩

/-- The value of a dialog that is stored under an id. -/
def dialog? (db : Database) (id : Text) : Option Json :=
  db.dialogs.get? id

/-- The script that is stored under an id. -/
def script? (db : Database) (id : Text) : Option Text :=
  db.scripts.get? id

end Database

end Parley
