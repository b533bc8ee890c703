import Parley.Text.Basic
import Parley.Text.Shown

/-!
# Quoted texts

A quoted text stands between single quotes, or between double quotes if it holds a single quote and no
double quote. The quote in use, the backslash, and every character that is not shown as itself are
escaped.
-/

namespace Parley.Text

/-- The last `width` hexadecimal digits of a number, in small letters. -/
def hexDigits : (width n : Nat) → Text
  | 0, _ => []
  | width + 1, n => hexDigits width (n / 16) ++ [Nat.digitChar (n % 16)]

/-- A character as it stands between quotes. -/
def escape (quote c : Char) : Text :=
  if c = quote || c = '\\' then ['\\', c]
  else if c = '\t' then ['\\', 't']
  else if c = '\n' then ['\\', 'n']
  else if c = '\r' then ['\\', 'r']
  else if isShown c then [c]
  else if c.toNat < 0x100 then '\\' :: 'x' :: hexDigits 2 c.toNat
  else if c.toNat < 0x10000 then '\\' :: 'u' :: hexDigits 4 c.toNat
  else '\\' :: 'U' :: hexDigits 8 c.toNat

/-- A text between quotes. -/
def quoted (t : Text) : Text :=
  let quote := if List.contains t '\'' && !List.contains t '"' then '"' else '\''
  quote :: t.flatMap (escape quote) ++ [quote]

end Parley.Text
