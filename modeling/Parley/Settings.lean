import Parley.Json.Writer
import Parley.Fault
import Parley.Library.Files
import Parley.Text.Case

/-!
# Settings

The settings of a game, as they stand in a settings file. A setting keeps whatever value it is given;
the functions at the end say what the rest of the library makes of the values.
-/

namespace Parley

/-- The settings, each with its value when it is not given. -/
structure Settings where
  playerName : Json := .text []
  exitGraceDelay : Json := .float 0.15
  keywordExpansionLimit : Json := .int 256
  strictResponses : Json := .bool false
  dataPath : Json := .text "game/data".toList
  logLevel : Json := .text "INFO".toList
  initialVars : List (Text × Json) := []
  deriving Inhabited

/-- Whether a value stands for yes: everything but nothing, zero and what is empty. -/
def Json.isYes : Json → Bool
  | .null => false
  | .bool b => b
  | .int n => n != 0
  | .float x => !(x == 0)
  | .text t => !t.isEmpty
  | .list js => !js.isEmpty
  | .object ms => !ms.isEmpty

namespace Settings

/-- The key and the value that an item of a list of pairs stands for. -/
def pairOf : Json → Option (Text × Json)
  | .list [.text key, value] => some (key, value)
  | .text [key, value] => some ([key], .text [value])
  | _ => none

/-- The variables that a value lists: the members of an object, or pairs. -/
def variablesOf : Json → List (Text × Json)
  | .object members => members
  | .list items => (Table.ofList (items.filterMap pairOf)).entries
  | _ => []

/-- The settings with one of them set, if there is one of that name. -/
def set? (s : Settings) (key : Text) (value : Json) : Option Settings :=
  match String.ofList key with
  | "player_name" => some { s with playerName := value }
  | "exit_grace_delay" => some { s with exitGraceDelay := value }
  | "keyword_expansion_limit" => some { s with keywordExpansionLimit := value }
  | "strict_responses" => some { s with strictResponses := value }
  | "data_path" => some { s with dataPath := value }
  | "log_level" => some { s with logLevel := value }
  | "initial_vars" => some { s with initialVars := variablesOf value }
  | _ => none

/-- The log entry about a setting that does not exist. -/
def unknownEntry (key : Text) : LogEntry :=
  .of .warning ["Unknown config key ignored: ", key.str]

/-- The settings of the members of an object, and the log. -/
def ofMembers (members : List (Text × Json)) : Settings × List LogEntry :=
  members.foldl
    (fun (s, log) (key, value) =>
      match s.set? key value with
      | some s => (s, log)
      | none => (s, log ++ [unknownEntry key]))
    ({}, [])

/-- The settings that a value holds, and the log. -/
def ofJson : Json → Except Fault (Settings × List LogEntry)
  | .object members => .ok (ofMembers members)
  | _ => .error .badSettings

/-- The settings in a file, and the log. -/
def ofFile (file : Entry) (room : Json.Room := .usual) : Except Fault (Settings × List LogEntry) :=
  match file.readJson room with
  | .ok j => ofJson j
  | .error .notFile => .error .missingFile
  | .error (.fault f) => .error f

/-- The settings by their names. -/
def members (s : Settings) : List (Text × Json) :=
  [("player_name".toList, s.playerName), ("exit_grace_delay".toList, s.exitGraceDelay),
   ("keyword_expansion_limit".toList, s.keywordExpansionLimit),
   ("strict_responses".toList, s.strictResponses), ("data_path".toList, s.dataPath),
   ("log_level".toList, s.logLevel), ("initial_vars".toList, .object s.initialVars)]

/-- The text that a value is. -/
def textOf? : Json → Option Text
  | .text t => some t
  | _ => none

/-- The name of the player, if there is one. -/
def player? (s : Settings) : Option Text :=
  textOf? s.playerName

/-- How long a session counts as active after its end. -/
def graceDelay (s : Settings) : Float :=
  match s.exitGraceDelay with
  | .int n => floatOfInt n
  | .float x => x
  | .bool b => if b then 1 else 0
  | _ => 0

/-- The most keywords that are replaced in one text. -/
def expansionLimit (s : Settings) : Int :=
  match s.keywordExpansionLimit with
  | .int n => n
  | _ => 256

/-- The number of a level of logging; a name that is none counts as that of plain information. -/
def levelNumber (name : Text) : Nat :=
  match String.ofList (Text.upper name) with
  | "CRITICAL" | "FATAL" => 50
  | "ERROR" => 40
  | "WARNING" | "WARN" => 30
  | "DEBUG" => 10
  | "NOTSET" => 0
  | _ => 20

/-- The number of the level of logging that the settings ask for. -/
def loggingLevel (s : Settings) : Except Fault Nat :=
  match s.logLevel with
  | .text name => .ok (levelNumber name)
  | _ => .error .badSettings

/-- How entries of the log are laid out. -/
def logFormat : String :=
  "%(levelname)s %(name)s: %(message)s"

end Settings

end Parley
