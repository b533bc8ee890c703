/-!
# Blank characters

The characters that trimming takes off the ends of a text: the blank, the line and page controls, the
four separator controls, and the space, line and paragraph separators of the wider character set. The
zero-width characters are not blank. Spacing, which may surround a number, is all of them but the
separator controls.
-/

namespace Parley.Text

/-- Whether a character is white space. -/
def isBlank (c : Char) : Bool :=
  let n := c.toNat
  n == 0x20 || (0x09 ≤ n && n ≤ 0x0d) || (0x1c ≤ n && n ≤ 0x1f) || n == 0x85 || n == 0xa0 || n == 0x1680
    || (0x2000 ≤ n && n ≤ 0x200a) || n == 0x2028 || n == 0x2029 || n == 0x202f || n == 0x205f
    || n == 0x3000

/-- Whether the character is white space that may surround a number. -/
def isSpacing (c : Char) : Bool :=
  isBlank c && !(0x1c ≤ c.toNat && c.toNat ≤ 0x1f)

end Parley.Text
