import Parley.Library.Files
import Parley.Script.Parse

/-!
# Script files

Reading a script from a file, and compiling it to a JSON file beside it or elsewhere.
-/

namespace Parley.Script

/-- The text of the script at a path. -/
def sourceAt (root : Entry) (p : Path) : Except Fault Text :=
  match root.find? p with
  | none => .error .missingFile
  | some e =>
    match e.readText with
    | .ok t => .ok t
    | .error .notFile => .error .missingFile
    | .error (.fault f) => .error f

/-- The dialog of the script file at a path. -/
def parseFile (strict : Bool) (root : Entry) (p : Path) (start : Text) : Except Fault Dialog :=
  (sourceAt root p).map fun t => parse strict t start

/-- Where the script file at a path is compiled to, and the text written there. A target that is not
given is the path with another suffix; its folder has to exist. -/
def compileFile (strict : Bool) (root : Entry) (p : Path) (target : Option Path) :
    Except Fault (Path × Text) :=
  let target := target.getD (p.withSuffix ".json".toList)
  match sourceAt root p with
  | .error f => .error f
  | .ok t =>
    if root.hasFolder target.dropLast then .ok (target, compile strict t) else .error .missingFile

end Parley.Script
