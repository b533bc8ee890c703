import Parley.Text.Basic

/-!
# The order of texts

Texts are ordered by the number of their first character that differs.
-/

namespace Parley.Text

/-- Whether the first text comes before the second or is the same. -/
def isBefore : (s t : Text) → Bool
  | [], _ => true
  | _ :: _, [] => false
  | a :: s, b :: t => a.toNat < b.toNat || (a == b && isBefore s t)

/-- The texts in order; those that are the same stay in theirs. -/
def sort (ts : List Text) : List Text :=
  ts.mergeSort isBefore

end Parley.Text
