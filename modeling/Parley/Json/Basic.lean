import Parley.Table
import Parley.Text.Basic

/-!
# JSON values

The values that saved dialogs, saved variables and settings are made of. Integers and other numbers are
told apart, and the members of an object keep their order.
-/

namespace Parley

/-- A JSON value. The keys of an object are different. -/
inductive Json where
  | null
  | bool (b : Bool)
  | int (n : Int)
  | float (x : Float)
  | text (t : Text)
  | list (items : List Json)
  | object (members : List (Text × Json))
  deriving Inhabited

namespace Json

/-- The value of a key, if the value is an object that has it. -/
def get? (j : Json) (key : Text) : Option Json :=
  match j with
  | .object members => Table.lookup key members
  | _ => none

/-- The object of members set one after another: a later value of a key replaces an earlier one in its
place. -/
def ofMembers (members : List (Text × Json)) : Json :=
  .object (members.foldl (fun ms m => Table.write m.1 m.2 ms) [])

end Json

end Parley
