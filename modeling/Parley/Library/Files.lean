import Parley.Fault
import Parley.Json.Reader
import Parley.Text.Newline

/-!
# Files and folders

A folder as a value: its entries by name, each a file with its bytes or another folder. Reading a file
can fail in the ways that `Fault` lists.
-/

namespace Parley

/-- A file or a folder. -/
inductive Entry where
  | file (bytes : ByteArray)
  | folder (entries : List (Text × Entry))

/-- The names on the way from a folder to an entry inside it. -/
abbrev Path := List Text

namespace Path

/-- The names in a text with slashes between them. -/
def ofText (t : Text) : Path :=
  (Text.splitOn ['/'] t).filter fun name => !name.isEmpty && name != ['.']

/-- The names of a path with slashes between them. -/
def toText (p : Path) : Text :=
  Text.join ['/'] p

/-- A file name before and from its last dot on. A dot at either end of the name does not count. -/
def splitSuffix (name : Text) : Text × Text :=
  match Text.cutLast ['.'] name with
  | some (stem, suffix) => if stem.isEmpty || suffix.isEmpty then (name, []) else (stem, '.' :: suffix)
  | none => (name, [])

/-- A file name without its suffix. -/
def stem (name : Text) : Text :=
  (splitSuffix name).1

/-- The path with another suffix on its last name. -/
def withSuffix (suffix : Text) (p : Path) : Path :=
  match p.getLast? with
  | none => p
  | some name => p.dropLast ++ [stem name ++ suffix]

end Path

namespace Entry

/-- The entries of a folder by name; a file has none. -/
def entries : Entry → List (Text × Entry)
  | .file _ => []
  | .folder es => es

/-- The entry at a path. -/
def find? (e : Entry) : Path → Option Entry
  | [] => some e
  | name :: rest =>
    match Table.lookup name e.entries with
    | some inner => inner.find? rest
    | none => none

/-- Whether there is a folder at a path. -/
def hasFolder (e : Entry) (p : Path) : Bool :=
  match e.find? p with
  | some (.folder _) => true
  | _ => false

/-- The entry with a file at a path, in new folders where there are none. -/
def write (e : Entry) (bytes : ByteArray) : Path → Entry
  | [] => .file bytes
  | name :: rest =>
    let inner := (Table.lookup name e.entries).getD (.folder [])
    .folder (Table.write name (inner.write bytes rest) e.entries)

end Entry

/-- Why an entry was not read. -/
inductive Unreadable where
  | notFile
  /-- Reading gave a fault. -/
  | fault (f : Fault)
  deriving DecidableEq, Repr

namespace Entry

/-- The text of a file. -/
def readText : Entry → Except Unreadable Text
  | .folder _ => .error .notFile
  | .file bytes =>
    match Text.ofBytes? bytes with
    | some t => .ok t
    | none => .error (.fault .undecodable)

/-- The JSON value in a file, with some room for it to nest. -/
def readJson (room : Json.Room) (e : Entry) : Except Unreadable Json :=
  match e.readText with
  | .error u => .error u
  | .ok t =>
    match Json.read (.trusting room) t with
    | .ok j => .ok j
    | .error .malformed => .error (.fault .malformedJson)
    | .error .nestedTooDeep => .error (.fault .nestedTooDeep)
    | .error (.integerTooLong digits) => .error (.fault (.integerTooLong digits))

end Entry

end Parley
