import Parley.Number.Numeral
import Parley.Table

/-!
# Variables

The variables of a game are texts, kept in the order in which they were first written. Some of them
count visits: `visits` reads a counter, and `countVisit?` moves it on by one.
-/

namespace Parley

/-- Variables are texts by name. -/
abbrev Variables := Table Text Text

namespace Variables

/-- The variables with one more, or none if the key is taken. -/
def add? (vs : Variables) (key value : Text) : Option Variables :=
  if vs.contains key then none else some (vs.set key value)

/-- What a counter stands at. A missing counter, and one that holds no integer, stands at zero. -/
def visits (vs : Variables) (key : Text) : Int :=
  match vs.get? key with
  | none => 0
  | some value =>
    match Numeral.read (Text.trim value) with
    | .ok n => n
    | .error _ => 0

/-- The variables with a counter moved on by one. A missing counter starts at one, and one that holds no
integer stays as it is. None if the next number has too many digits to be written. -/
def countVisit? (vs : Variables) (key : Text) : Option Variables :=
  match vs.get? key with
  | none => some (vs.set key ['1'])
  | some value =>
    match Numeral.read (Text.trim value) with
    | .ok n => (Numeral.write? (n + 1)).map (vs.set key)
    | .error _ => some vs

end Variables

end Parley
