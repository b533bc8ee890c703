import Parley.Text.Basic

/-!
# Text files

A text file holds the bytes of its characters. Reading it turns every line end, whether a carriage
return, a line feed, or both in a row, into one line feed.
-/

namespace Parley.Text

/-- The text with every line end written as one line feed. -/
def unifyNewlines : Text → Text
  | '\r' :: '\n' :: t => '\n' :: unifyNewlines t
  | '\r' :: t => '\n' :: unifyNewlines t
  | c :: t => c :: unifyNewlines t
  | [] => []

/-- The text that the bytes of a file spell, if they spell one. -/
def ofBytes? (bytes : ByteArray) : Option Text :=
  (String.fromUTF8? bytes).map fun s => unifyNewlines s.toList

end Parley.Text
