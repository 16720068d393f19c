/-!
# `MonkeyScan.Text.Basic`: text as a list of characters

Every text of the library, source and output alike, is a list of Unicode
characters: offsets, columns and widths count characters. `String` is met
only at the edge of the program.

The helpers here are the few that the formats share: repetition, padding to
a width, trimming at the end, and decimal numerals.
-/

set_option autoImplicit false

namespace MonkeyScan

/-- A sequence of Unicode characters. -/
abbrev Text := List Char

namespace Text

/-- `n` copies of `c`, none when `n` is negative. -/
def repeated (c : Char) (n : Int) : Text :=
  List.replicate n.toNat c

/-- Pads with blanks on the right up to `width`; a longer text is kept whole. -/
def padRight (width : Nat) (t : Text) : Text :=
  t ++ List.replicate (width - t.length) ' '

/-- Drops every `c` that stands at the end. -/
def dropTrailing (c : Char) (t : Text) : Text :=
  (t.reverse.dropWhile (· == c)).reverse

/-- The decimal numeral of a natural number, without leading zeros. -/
def ofNat (n : Nat) : Text :=
  Nat.toDigits 10 n

/-- The decimal numeral of an integer, with `-` in front of a negative one. -/
def ofInt : Int → Text
  | .ofNat n => ofNat n
  | .negSucc n => '-' :: ofNat (n + 1)

end Text

end MonkeyScan
