import Parley.Dialog.Saved
import Parley.Log
import Parley.Variables.Basic

/-!
# Saving and loading variables

Variables are saved as JSON, an object with a list of assignments, or as plain text, pairs with one
delimiter between pairs and another inside them. Loading merges what was saved into the variables that
are there, and changes nothing if any of it is malformed.
-/

namespace Parley.Variables

open Json

/-- Why nothing was loaded. -/
inductive LoadFailure where
  /-- The JSON text has this many issues. -/
  | issues (count : Nat)
  | emptyDelimiter
  /-- An entry of the plain text is no pair with a key. -/
  | malformedEntry (entry : Text)
  deriving DecidableEq, Repr

/-- How a failure to load variables is logged. -/
def LoadFailure.entry : LoadFailure → LogEntry
  | .issues count =>
    .of .warning ["Variable import failed: ", toString count, " error(s)"]
  | .emptyDelimiter => .of .warning ["Variable import needs non-empty delimiters"]
  | .malformedEntry e => .of .warning ["Malformed variable entry: '", e.str, "'"]

/-- A variable as a JSON object. -/
def saveEntry (entry : Text × Text) : Json :=
  .object [("key".toList, .text entry.1), ("value".toList, .text entry.2)]

/-- The variables as a JSON text. -/
def exportJson (vs : Variables) (layout : Layout) : Text :=
  Json.render layout (.object [("vars".toList, .list (vs.entries.map saveEntry))])

/-- The assignments that a saved value holds. Members besides the list of variables do not matter. -/
def readSaved (j : Json) : Checked (List Assignment) :=
  match j with
  | .object members =>
    match Table.lookup "vars".toList members with
    | none => .ok []
    | some saved => Checked.within (.key "vars".toList) ((Codec.list Assignment.type.codec).read saved)
  | _ => Checked.refuse .notObject

/-- The assignments in a JSON text. -/
def parseSaved (t : Text) : Checked (List Assignment) :=
  match Json.read .guarded t with
  | .ok j => readSaved j
  | .error _ => Checked.refuse .malformed

/-- The variables with assignments made one after another; those without a key are passed over. -/
def assignAll (vs : Variables) (as : List Assignment) : Variables :=
  vs.setAll ((as.filter (!·.key.isEmpty)).map fun a => (a.key, a.value))

/-- The variables with those of a saved text merged into them. -/
def importJson (vs : Variables) (t : Text) : Except LoadFailure Variables :=
  match parseSaved t with
  | .ok as => .ok (vs.assignAll as)
  | .error issues => .error (.issues issues.length)

/-- The variables as a plain text with delimiters. -/
def exportText (vs : Variables) (entryDelimiter pairDelimiter : Text) : Text :=
  Text.join entryDelimiter (vs.entries.map fun e => e.1 ++ pairDelimiter ++ e.2)

/-- The key and the value of one entry of a plain text. -/
def readEntry? (pairDelimiter entry : Text) : Option (Text × Text) := do
  let (key, value) ← Text.splitPair? pairDelimiter entry
  let key := Text.trim key
  if key.isEmpty then none else some (key, Text.trim value)

/-- The keys and values of entries, or the first entry that is malformed. -/
def readEntries (pairDelimiter : Text) : List Text → Except LoadFailure (List (Text × Text))
  | [] => .ok []
  | e :: es =>
    match readEntry? pairDelimiter e with
    | none => .error (.malformedEntry e)
    | some pair => (readEntries pairDelimiter es).map (pair :: ·)

/-- The variables with those of a plain text merged into them. A blank text holds none. -/
def importText (vs : Variables) (t entryDelimiter pairDelimiter : Text) :
    Except LoadFailure Variables :=
  if entryDelimiter.isEmpty || pairDelimiter.isEmpty then .error .emptyDelimiter
  else if (Text.trim t).isEmpty then .ok vs
  else (readEntries pairDelimiter (Text.splitOn entryDelimiter t)).map vs.setAll

/-- The log entry about a file of variables that is passed over. -/
def ignoredFileEntry (path : Text) : LogEntry :=
  .of .warning ["Ignoring malformed variable file ", path.str]

/-- The variables of a saved file with the given text and path, none if it is malformed, and the log. -/
def load (t path : Text) : Variables × List LogEntry :=
  match importJson Table.empty t with
  | .ok vs => (vs, [])
  | .error failure => (Table.empty, [failure.entry, ignoredFileEntry path])

/-- The variables as they are shown to a programmer. -/
def describe (vs : Variables) : Text :=
  let pairs := vs.entries.map fun e => (e.1, Json.text e.2)
  "VariableStore(".toList ++ Json.showNested (.object pairs) ++ [')']

/-- Variables from pairs with values of any kind; what is no text is stored as it is shown. -/
def ofJson (pairs : List (Text × Json)) : Variables :=
  Table.ofList (pairs.map fun p => (p.1, p.2.shown))

end Parley.Variables
