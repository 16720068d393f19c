import MonkeyScan.Text.Basic

/-!
# `MonkeyScan.Text.Lines`: two notions of line

Positions count *lines*: pieces between line feeds. Reports show *rows*,
which end at any of the line breaks of the Unicode standard as well. The two
agree on a text whose only breaks are line feeds, bare or after a carriage
return.
-/

set_option autoImplicit false

namespace MonkeyScan.Text

/-- The pieces between line feeds, one more than there are line feeds. -/
def lines (t : Text) : List Text :=
  t.splitOn '\n'

/-- The characters that end a row: line feed, vertical tab, form feed,
carriage return, the three separators U+001C to U+001E, next line, line
separator and paragraph separator. -/
def isRowBreak (c : Char) : Bool :=
  let n := c.toNat
  (0x0a ≤ n && n ≤ 0x0d) || (0x1c ≤ n && n ≤ 0x1e) || n == 0x85 || n == 0x2028 || n == 0x2029

/-- Puts `c` in front of the first row. -/
def consRow (c : Char) : List Text → List Text
  | [] => [[c]]
  | row :: more => (c :: row) :: more

/-- The rows of a text, each with the break that ends it. A carriage return
and the line feed after it are one break. The last row may have none; no
empty row follows a final break. -/
def rows : Text → List Text
  | [] => []
  | '\r' :: '\n' :: rest => ['\r', '\n'] :: rows rest
  | c :: rest => if isRowBreak c then [c] :: rows rest else consRow c (rows rest)

/-- A row without the line feed, and then without the carriage return, at its
end. The other breaks stay. -/
def stripEnding (row : Text) : Text :=
  dropTrailing '\r' (dropTrailing '\n' row)

end MonkeyScan.Text
