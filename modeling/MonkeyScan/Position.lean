import MonkeyScan.Text.Lines

/-!
# `MonkeyScan.Position`: lines and columns

An offset counts characters from zero; people count lines and columns from
one. A `LineIndex` holds the offsets at which the lines of a text start, so
that a position is found without reading the text again.
-/

set_option autoImplicit false

namespace MonkeyScan

/-- A place in a text: line and column from one, offset from zero. -/
structure Position where
  line : Int
  column : Int
  offset : Int
  deriving DecidableEq, Repr

/-- The offsets at which the lines of a text start, in ascending order. The
first line starts at zero and is not listed. -/
structure LineIndex where
  laterStarts : List Nat
  deriving DecidableEq, Repr

namespace LineIndex

/-- The offsets just after the line feeds of a text that itself starts at
`offset`. -/
def startsAfter (offset : Nat) : Text → List Nat
  | [] => []
  | c :: rest =>
    if c = '\n' then (offset + 1) :: startsAfter (offset + 1) rest
    else startsAfter (offset + 1) rest

/-- The index of a text. -/
def ofText (t : Text) : LineIndex :=
  ⟨startsAfter 0 t⟩

/-- The starts of all lines. -/
def starts (index : LineIndex) : List Nat :=
  0 :: index.laterStarts

/-- The position of an offset. Its line is the last that starts at or before
it, so an offset past the end is on the last line. An offset before the text
is on no line: it is on line zero, and its column counts from the start of the
last line. -/
def position (index : LineIndex) (offset : Int) : Position :=
  let before := index.starts.takeWhile fun (start : Nat) => decide ((start : Int) ≤ offset)
  let start := before.getLast?.getD (index.starts.getLast (by simp [starts]))
  ⟨before.length, offset - start + 1, offset⟩

end LineIndex

end MonkeyScan
