import MonkeyScan.Text.CodeRanges

/-!
# `MonkeyScan.Text.Blank`: whitespace

Whitespace is what separates tokens: the characters of bidirectional class
B, S or WS and those of general category Zs. The information separators
U+001C to U+001F and the next-line character U+0085 are among them; the
zero-width space and the byte order mark are not.
-/

set_option autoImplicit false

namespace MonkeyScan.Text

/-- The ranges of the whitespace characters. -/
def blankRanges : CodeRanges := [
  (0x0009, 0x000d), (0x001c, 0x0020), (0x0085, 0x0085), (0x00a0, 0x00a0), (0x1680, 0x1680),
  (0x2000, 0x200a), (0x2028, 0x2029), (0x202f, 0x202f), (0x205f, 0x205f), (0x3000, 0x3000)]

/-- Whether `c` is whitespace. -/
def isBlank (c : Char) : Bool :=
  blankRanges.has c

end MonkeyScan.Text
