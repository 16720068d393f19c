import MonkeyScan.Scan

/-!
# `MonkeyScan.Cursor`: reading a source step by step

A cursor stands at an offset of a source and holds what is left of it from
there. It may stand past the end, where nothing is left. `Cursor.next` gives
one token or one error and leaves the cursor behind it, so that reading can
go on after an error; the other operations are the movements it is made of
and may be used anywhere.

Positions of errors need the line index of the source. It is made when the
first error arises and kept.

`next_rest_lt` states that a token other than the end of the input leaves
less to read.
-/

set_option autoImplicit false

namespace MonkeyScan

open Scan (Outcome step)

/-- A place in a source, what is left from there, and the line index once an
error has needed it. -/
structure Cursor where
  source : Text
  filename : Text
  position : Nat
  rest : Text
  index? : Option LineIndex
  deriving DecidableEq, Repr

namespace Cursor

/-- The cursor at the start of a source. -/
def start (source filename : Text) : Cursor :=
  ⟨source, filename, 0, source, none⟩

/-- The character under the cursor, if it is not at the end. -/
def current (c : Cursor) : Option Char :=
  c.rest.head?

/-- The offset of the character after the one under the cursor. -/
def nextPosition (c : Cursor) : Nat :=
  c.position + 1

/-- The character after the one under the cursor, if there is one. -/
def peek (c : Cursor) : Option Char :=
  c.rest.tail.head?

/-! ### Movements -/

/-- Moves on by `n` characters, past the end if need be. -/
def advance (c : Cursor) (n : Nat) : Cursor :=
  { c with position := c.position + n, rest := c.rest.drop n }

/-- Moves to the next character that is not whitespace. -/
def skipBlanks (c : Cursor) : Cursor :=
  c.advance (c.rest.takeWhile Text.isBlank).length

/-- Moves over the characters that may go on a name and gives them. -/
def readWord (c : Cursor) : Text × Cursor :=
  let word := c.rest.takeWhile Scan.isWordChar
  (word, c.advance word.length)

/-- The error that the next `width` characters are, and the cursor behind
them. From now on the line index is kept. -/
def refuse (c : Cursor) (kind : FaultKind) (width : Nat) : ScanError × Cursor :=
  let lexeme := c.rest.take width
  let index := c.index?.getD (LineIndex.ofText c.source)
  (⟨kind, kind.message lexeme, index.position c.position, lexeme, c.source, c.filename⟩,
    { c.advance width with index? := some index })

/-- Moves over a run of digits and gives its value. -/
def readInteger (c : Cursor) : Except ScanError Nat × Cursor :=
  match Scan.readInteger c.rest with
  | (some n, width) => (.ok n, c.advance width)
  | (none, width) =>
    let (e, after) := c.refuse .malformedInteger width
    (.error e, after)

/-- Moves over a string and gives its content. The character under the cursor
is taken for the opening quote. -/
def readString (c : Cursor) : Except ScanError Text × Cursor :=
  match Scan.readString c.rest with
  | (some content, width) => (.ok content, c.advance width)
  | (none, width) =>
    let (e, after) := c.refuse .unterminatedString width
    (.error e, after)

/-! ### Tokens -/

/-- The next token or error, and the cursor behind it. At the end of the
input this is the end token, again and again. -/
def next (c : Cursor) : Except ScanError Token × Cursor :=
  let c := c.skipBlanks
  let s := step c.rest
  match s.outcome with
  | .token kind value => (.ok ⟨kind, value, c.position⟩, c.advance s.width)
  | .fault kind =>
    let (e, after) := c.refuse kind s.width
    (.error e, after)

/-- What is left after the blanks in front. -/
theorem rest_skipBlanks (c : Cursor) : c.skipBlanks.rest = c.rest.dropWhile Text.isBlank := by
  show c.rest.drop (c.rest.takeWhile Text.isBlank).length = _
  have hsplit := List.takeWhile_append_dropWhile (p := Text.isBlank) (l := c.rest)
  conv => lhs; arg 2; rw [← hsplit]
  exact List.drop_left

/-- A token other than the end of the input leaves less to read. -/
theorem next_rest_lt {c after : Cursor} {t : Token} (hnext : c.next = (.ok t, after))
    (hkind : t.kind ≠ .endOfInput) : after.rest.length < c.rest.length := by
  have hle : c.skipBlanks.rest.length ≤ c.rest.length := by
    rw [rest_skipBlanks]
    exact (List.dropWhile_sublist _).length_le
  unfold next at hnext
  cases hrest : c.skipBlanks.rest with
  | nil =>
      simp only [hrest, step, Prod.mk.injEq, Except.ok.injEq] at hnext
      exact absurd (hnext.1 ▸ rfl) hkind
  | cons d more =>
      have hpos := Scan.step_width_pos d more
      simp only [hrest] at hnext hle
      split at hnext
      · simp only [Prod.mk.injEq] at hnext
        rw [← hnext.2]
        simp only [advance, hrest, List.length_drop, List.length_cons] at hle ⊢
        omega
      · simp at hnext

/-- All tokens up to the end of the input, or the first error on the way. -/
def tokenize (c : Cursor) : Except ScanError (List Token) × Cursor :=
  match _hnext : c.next with
  | (.error e, after) => (.error e, after)
  | (.ok t, after) =>
    if _hkind : t.kind = .endOfInput then (.ok [t], after)
    else
      match after.tokenize with
      | (.error e, last) => (.error e, last)
      | (.ok tokens, last) => (.ok (t :: tokens), last)
termination_by c.rest.length
decreasing_by exact next_rest_lt _hnext _hkind

/-- At most `n` tokens, fewer if the input ends, or the first error on the
way. -/
def take (c : Cursor) : Nat → Except ScanError (List Token) × Cursor
  | 0 => (.ok [], c)
  | n + 1 =>
    match c.next with
    | (.error e, after) => (.error e, after)
    | (.ok t, after) =>
      if t.kind = .endOfInput then (.ok [t], after)
      else
        match after.take n with
        | (.error e, last) => (.error e, last)
        | (.ok tokens, last) => (.ok (t :: tokens), last)

end Cursor

end MonkeyScan
