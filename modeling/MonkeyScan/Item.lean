import MonkeyScan.Scan

/-!
# `MonkeyScan.Item`: what a text holds, in order

The items of a text are its tokens and faults, each with the characters it
takes and the offset of the first of them. Whitespace separates items and is
in none. The end of the input is not an item.
-/

set_option autoImplicit false

namespace MonkeyScan

open Scan (Outcome step)

/-- A token or a fault in its place. -/
structure Item where
  start : Nat
  lexeme : Text
  outcome : Outcome
  deriving DecidableEq, Repr

namespace Item

/-- The offset just after an item. -/
def stop (i : Item) : Nat :=
  i.start + i.lexeme.length

/-- The token of an item that is one. -/
def token? (i : Item) : Option Token :=
  match i.outcome with
  | .token kind value => some ⟨kind, value, i.start⟩
  | .fault _ => none

/-- The error of an item that is a fault, in a source with its index. -/
def error? (source filename : Text) (index : LineIndex) (i : Item) : Option ScanError :=
  match i.outcome with
  | .token _ _ => none
  | .fault kind =>
    some ⟨kind, kind.message i.lexeme, index.position i.start, i.lexeme, source, filename⟩

end Item

/-- A text without the whitespace in front is no longer than before. -/
theorem length_dropWhile_isBlank_le (t : Text) :
    (t.dropWhile Text.isBlank).length ≤ t.length :=
  (List.dropWhile_sublist _).length_le

/-- The items of a text that starts at `offset`: whitespace is skipped, and a
step is taken wherever something is left. -/
def itemsFrom (offset : Nat) (t : Text) : List Item :=
  match _hrest : t.dropWhile Text.isBlank with
  | [] => []
  | c :: rest =>
    let start := offset + (t.takeWhile Text.isBlank).length
    let s := step (c :: rest)
    ⟨start, (c :: rest).take s.width, s.outcome⟩
      :: itemsFrom (start + s.width) ((c :: rest).drop s.width)
termination_by t.length
decreasing_by
  have hle := length_dropWhile_isBlank_le t
  have hpos := Scan.step_width_pos c rest
  rw [_hrest] at hle
  simp only [List.length_drop, List.length_cons] at hle ⊢
  omega

/-- The items of a text. -/
def items (t : Text) : List Item :=
  itemsFrom 0 t

end MonkeyScan
