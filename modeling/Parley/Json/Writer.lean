import Parley.Json.Basic
import Parley.Number.Written
import Parley.Text.Quoted

/-!
# Writing JSON

A value is written on one line without blanks, or with every item and member on a line of its own. The
second half of the file writes a value the way it is stored when a variable is set to something that is
no text.
-/

namespace Parley.Json

/-- A character as it stands in a string. -/
def escape : Char → Text
  | '"' => ['\\', '"']
  | '\\' => ['\\', '\\']
  | '\x08' => ['\\', 'b']
  | '\x0c' => ['\\', 'f']
  | '\n' => ['\\', 'n']
  | '\r' => ['\\', 'r']
  | '\t' => ['\\', 't']
  | c => if c.toNat < 0x20 then '\\' :: 'u' :: Text.hexDigits 4 c.toNat else [c]

/-- A text as a JSON string. -/
def writeString (t : Text) : Text :=
  '"' :: t.flatMap escape ++ ['"']

/-- A number; one that is infinite or no number is written as nothing. -/
def writeFloat (x : Float) : Text :=
  if x.isFinite then NumberStyle.saved.write x else "null".toList

/-- How the parts of a value are set off: on one line, or on lines indented by a number of blanks for
each level. -/
abbrev Layout := Option Nat

namespace Layout

/-- What stands in front of an item or a closing bracket at a level. -/
def lineAt (layout : Layout) (level : Nat) : Text :=
  match layout with
  | none => []
  | some indent => '\n' :: List.replicate (indent * level) ' '

/-- What stands between a key and its value. -/
def colon (layout : Layout) : Text :=
  match layout with
  | none => [':']
  | some _ => [':', ' ']

end Layout

mutual

/-- A value at a level of nesting. -/
def write (layout : Layout) (level : Nat) : Json → Text
  | .null => "null".toList
  | .bool b => if b then "true".toList else "false".toList
  | .int n => Numeral.ofInt n
  | .float x => writeFloat x
  | .text t => writeString t
  | .list [] => ['[', ']']
  | .list (j :: js) =>
    '[' :: layout.lineAt (level + 1) ++ write layout (level + 1) j ++ writeItems layout (level + 1) js
      ++ layout.lineAt level ++ [']']
  | .object [] => ['\x7b', '\x7d']
  | .object ((k, j) :: ms) =>
    '\x7b' :: layout.lineAt (level + 1) ++ writeString k ++ layout.colon ++ write layout (level + 1) j
      ++ writeMembers layout (level + 1) ms ++ layout.lineAt level ++ ['\x7d']

/-- The items of an array behind the first. -/
def writeItems (layout : Layout) (level : Nat) : List Json → Text
  | [] => []
  | j :: js => ',' :: layout.lineAt level ++ write layout level j ++ writeItems layout level js

/-- The members of an object behind the first. -/
def writeMembers (layout : Layout) (level : Nat) : List (Text × Json) → Text
  | [] => []
  | (k, j) :: ms =>
    ',' :: layout.lineAt level ++ writeString k ++ layout.colon ++ write layout level j
      ++ writeMembers layout level ms

end

/-- The text of a whole value. -/
def render (layout : Layout) (j : Json) : Text :=
  write layout 0 j

mutual

/-- A value inside another one, as it is shown. -/
def showNested : Json → Text
  | .null => "None".toList
  | .bool b => if b then "True".toList else "False".toList
  | .int n => Numeral.ofInt n
  | .float x => showFloat x
  | .text t => Text.quoted t
  | .list js => '[' :: Text.join [',', ' '] (showItems js) ++ [']']
  | .object ms => '\x7b' :: Text.join [',', ' '] (showMembers ms) ++ ['\x7d']

/-- The items of an array, as they are shown. -/
def showItems : List Json → List Text
  | [] => []
  | j :: js => showNested j :: showItems js

/-- The members of an object, as they are shown. -/
def showMembers : List (Text × Json) → List Text
  | [] => []
  | (k, j) :: ms => (Text.quoted k ++ [':', ' '] ++ showNested j) :: showMembers ms

end

/-- A value as a variable holds it: a text as it is, anything else as it is shown. -/
def shown : Json → Text
  | .text t => t
  | j => showNested j

end Parley.Json
