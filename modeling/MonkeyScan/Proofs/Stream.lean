import MonkeyScan.Proofs.Concatenation
import MonkeyScan.Proofs.Reading

/-!
# `MonkeyScan.Proofs.Stream`: reading on without end

A cursor can be read from again and again: behind the last token it gives the
end of the input, each time. `Cursor.stream` is the unending list of events
that reading on gives.

The stream is a matter of the source and of the place alone. Two cursors are
compared, one over a source and one over what is left of it from an offset
`p`. As long as the first stands `p` characters further on than the second,
they give the same events, moved by `p`:

* `Sound.next_relocate`: one reading gives the same event and keeps the
  distance.
* `Sound.stream_relocate`: so the streams are the same, event by event.
* `Sound.stream_congr`: cursors at one place of a source have one stream,
  whether an index is kept or not.
* `Reached.stream_eq_fresh`: reading on from anywhere is reading what is left
  from its start.
-/

set_option autoImplicit false

namespace MonkeyScan

open Scan

/-- An event that stands `n` characters further on in a whole. -/
def Event.relocate (whole : Text) (n : Nat) : Event → Event
  | .ok t => .ok (t.shift n)
  | .error e => .error (e.relocate whole n)

/-- The event of an item in what is left of a source, moved to the source. -/
theorem Item.event_shift (source filename : Text) (n : Nat) (i : Item) :
    (i.shift n).event source filename
      = (i.event (source.drop n) filename).relocate source n := by
  obtain ⟨start, lexeme, outcome⟩ := i
  cases outcome with
  | token kind value => rfl
  | fault kind => rfl

namespace Cursor

/-! ### The stream of a cursor -/

/-- The cursor after `n` readings. -/
def after (c : Cursor) : Nat → Cursor
  | 0 => c
  | n + 1 => c.next.2.after n

/-- What reading on from a cursor gives for the `n`-th time, counted from
zero. -/
def stream (c : Cursor) (n : Nat) : Event :=
  (c.after n).next.1

/-- The cursor without its line index. -/
def forget (c : Cursor) : Cursor :=
  { c with index? := none }

/-- No reading leaves the cursor where it is. -/
@[simp] theorem after_zero (c : Cursor) : c.after 0 = c := rfl

/-- The first of some readings comes before the others. -/
@[simp] theorem after_succ (c : Cursor) (n : Nat) : c.after (n + 1) = c.next.2.after n := rfl

/-- Readings add up. -/
theorem after_add (c : Cursor) (m n : Nat) : c.after (m + n) = (c.after m).after n := by
  induction m generalizing c with
  | zero => rw [Nat.zero_add, after_zero]
  | succ m ih => rw [Nat.succ_add, after_succ, ih, after_succ]

/-- The stream after some readings is the stream from there on. -/
theorem stream_after (c : Cursor) (m n : Nat) : (c.after m).stream n = c.stream (m + n) := by
  rw [stream, stream, after_add]

variable {source filename : Text} {c d : Cursor}

namespace Sound

/-- Any number of readings keeps a cursor sound. -/
theorem after (h : Sound source filename c) (n : Nat) : Sound source filename (c.after n) := by
  induction n generalizing c with
  | zero => exact h
  | succ n ih => exact ih h.next

/-- A sound cursor is sound without its line index. -/
theorem forget (h : Sound source filename c) : Sound source filename c.forget :=
  ⟨h.source_eq, h.filename_eq, h.rest_eq, fun _ hindex => nomatch hindex⟩

/-- All of a sound cursor but the line index is told by its place. -/
theorem forget_eq (h : Sound source filename c) :
    c.forget = ⟨source, filename, c.position, source.drop c.position, none⟩ := by
  rw [← h.rest_eq, ← h.source_eq, ← h.filename_eq]
  rfl

/-- The line index of a sound cursor, if there is one, is that of the source. -/
theorem index?_eq (h : Sound source filename c) :
    c.index? = none ∨ c.index? = some (LineIndex.ofText source) := by
  cases hindex : c.index? with
  | none => exact Or.inl rfl
  | some index => exact Or.inr (by rw [h.index_eq index hindex])

/-! ### Two cursors side by side -/

/-- One reading gives the same event, moved by `p`, and the cursors stay `p`
characters apart. -/
theorem next_relocate {p : Nat} (hc : Sound source filename c)
    (hd : Sound (source.drop p) filename d) (h : c.position = d.position + p) :
    c.next.1 = Event.relocate source p d.next.1 ∧
      c.next.2.position = d.next.2.position + p := by
  have hrest : c.rest = d.rest := by
    rw [hc.rest_eq, hd.rest_eq, h, List.drop_drop, Nat.add_comm]
  -- The same is left, so the same stands at the front of it, for both.
  rcases blank_or_front d.rest with hblank | ⟨gap, lexeme, rest, o, hsplit, hgap, hfront⟩
  · obtain ⟨hevent, -, hposition⟩ := hd.next_of_blank hblank
    rw [← hrest] at hblank
    obtain ⟨hevent', -, hposition'⟩ := hc.next_of_blank hblank
    have hend : d.position + p + d.rest.length = d.position + d.rest.length + p := by omega
    rw [h, hrest, hend] at hevent' hposition'
    rw [hevent, hevent', hposition, hposition']
    exact ⟨rfl, rfl⟩
  · obtain ⟨hevent, -, hposition⟩ := hd.next_of_front hsplit hgap hfront
    obtain ⟨hevent', -, hposition'⟩ := hc.next_of_front (hrest.trans hsplit) hgap hfront
    have hstart : d.position + p + gap.length = d.position + gap.length + p := by omega
    rw [h, hstart] at hevent' hposition'
    refine ⟨?_, by omega⟩
    rw [hevent, hevent']
    exact Item.event_shift source filename p ⟨d.position + gap.length, lexeme, o⟩

/-- The whole streams are the same, moved by `p`. -/
theorem stream_relocate {p : Nat} (hc : Sound source filename c)
    (hd : Sound (source.drop p) filename d) (h : c.position = d.position + p) (n : Nat) :
    c.stream n = (d.stream n).relocate source p := by
  induction n generalizing c d with
  | zero => exact (hc.next_relocate hd h).1
  | succ n ih => exact ih hc.next hd.next (hc.next_relocate hd h).2

/-- Cursors at one place of a source have one stream. -/
theorem stream_congr (hc : Sound source filename c) (hd : Sound source filename d)
    (h : c.position = d.position) (n : Nat) : c.stream n = d.stream n := by
  -- Both are moved by zero from what `d` gives.
  have hzero : Sound (source.drop 0) filename d := hd
  exact (hc.stream_relocate hzero h n).trans (hd.stream_relocate hzero rfl n).symm

end Sound

/-- Wherever reading has led, and whatever errors arose on the way, nothing is
kept but the place, and an index of the source that tells nothing new. Reading
on gives what a cursor at the start of the remaining text gives, with all offsets
moved. -/
theorem Reached.stream_eq_fresh (h : Reached source filename c) :
    c.forget = ⟨source, filename, c.position, source.drop c.position, none⟩ ∧
    (c.index? = none ∨ c.index? = some (LineIndex.ofText source)) ∧
    ∀ n, c.stream n
      = ((Cursor.start (source.drop c.position) filename).stream n).relocate source
          c.position := by
  have hsound := h.sound_and_position_le.1
  refine ⟨hsound.forget_eq, hsound.index?_eq, fun n => ?_⟩
  exact hsound.stream_relocate (Sound.start _ _) (Nat.zero_add _).symm n

/-- Behind the error of a large integer the index is kept. What is left is read as
by itself: a name, then an open string, whose error is on the second line of the
source. -/
theorem Reached.stream_eq_fresh_after_error :
    let source := "99999999999 x\n\"ab".toList
    let c := ((Cursor.start source []).perform .next).2
    Reached source [] c ∧ c.index? = some ⟨[14]⟩ ∧ c.position = 11 ∧
      c.stream 1 = .error ⟨.unterminatedString,
        "input ended before closing quote of string".toList, ⟨2, 1, 14⟩, "\"ab".toList,
        source, []⟩ ∧
      ∀ n, c.stream n
        = ((Cursor.start (source.drop 11) []).stream n).relocate source 11 := by
  intro source c
  have hreached : Reached source [] c := .perform .start rfl
  exact ⟨hreached, by decide, by decide, by decide +kernel, hreached.stream_eq_fresh.2.2⟩

end Cursor

end MonkeyScan
