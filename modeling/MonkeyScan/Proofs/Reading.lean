import MonkeyScan.Proofs.Event
import MonkeyScan.Proofs.Layout
import MonkeyScan.Session

/-!
# `MonkeyScan.Proofs.Reading`: cursors that reading reaches

A cursor is `Sound` for a source when its parts fit: what is left is the
source from its position on, and a line index, if there is one, is that of the
source. `Reached` are the cursors that reading whole tokens leads to.

* `Sound.next_of_front`: reading on gives the event of what stands at the
  front and leaves the cursor behind it.
* `Sound.next_of_blank`: where only whitespace is left, it gives the end of the
  input.
* `Reached.induct_next`: what one reading keeps holds of every cursor that is
  reached, whole runs included.
* `Reached.sound_and_position_le`: so each of them is sound and not past the
  end.
-/

set_option autoImplicit false

namespace MonkeyScan

open Scan

namespace Cursor

/-- The cursor stands at an offset of a source. -/
def StandsAt (c : Cursor) (source : Text) (n : Nat) : Prop :=
  c.source = source ∧ c.position = n ∧ c.rest = source.drop n

/-- The parts of a cursor over a source fit together. -/
structure Sound (source filename : Text) (c : Cursor) : Prop where
  source_eq : c.source = source
  filename_eq : c.filename = filename
  rest_eq : c.rest = source.drop c.position
  index_eq : ∀ index, c.index? = some index → index = LineIndex.ofText source

/-- The cursors that operations on whole tokens lead to. -/
inductive Reached (source filename : Text) : Cursor → Prop where
  | start : Reached source filename (start source filename)
  | perform {c : Cursor} (before : Reached source filename c) {op : Operation}
      (reads : op.readsTokens = true) : Reached source filename (c.perform op).2

variable {source filename : Text} {c : Cursor}

/-! ### Soundness of the movements -/

namespace Sound

/-- The cursor at the start is sound. -/
theorem start (source filename : Text) : Sound source filename (start source filename) :=
  ⟨rfl, rfl, rfl, fun _ h => nomatch h⟩

/-- A sound cursor stands at its position. -/
theorem standsAt (h : Sound source filename c) : c.StandsAt source c.position :=
  ⟨h.source_eq, rfl, h.rest_eq⟩

/-- Moving on keeps a cursor sound. -/
theorem advance (h : Sound source filename c) (n : Nat) :
    Sound source filename (c.advance n) where
  source_eq := h.source_eq
  filename_eq := h.filename_eq
  rest_eq := by
    show c.rest.drop n = source.drop (c.position + n)
    rw [h.rest_eq, List.drop_drop]
  index_eq := h.index_eq

/-- The line index that an error is placed by is that of the source. -/
theorem getD_index (h : Sound source filename c) :
    c.index?.getD (LineIndex.ofText c.source) = LineIndex.ofText source := by
  cases hindex : c.index? with
  | none => rw [Option.getD_none, h.source_eq]
  | some index => rw [Option.getD_some, h.index_eq index hindex]

/-- Refusing keeps a cursor sound. -/
theorem refuse (h : Sound source filename c) (kind : FaultKind) (width : Nat) :
    Sound source filename (c.refuse kind width).2 where
  source_eq := h.source_eq
  filename_eq := h.filename_eq
  rest_eq := (h.advance width).rest_eq
  index_eq := by
    intro index hindex
    rw [← Option.some.inj hindex]
    exact h.getD_index

/-- The error of a refusal quotes the source and points to where the cursor
stands. -/
theorem refuse_error (h : Sound source filename c) (kind : FaultKind) (width : Nat) :
    (c.refuse kind width).1
      = ⟨kind, kind.message (c.rest.take width), (LineIndex.ofText source).position c.position,
          c.rest.take width, source, filename⟩ := by
  rw [← h.getD_index, ← h.source_eq, ← h.filename_eq]
  rfl

/-! ### Reading on -/

/-- Reading on where something stands at the front gives its event and leaves
the cursor behind it. -/
theorem next_of_front {gap lexeme rest : Text} {o : Outcome} (h : Sound source filename c)
    (hrest : c.rest = gap ++ (lexeme ++ rest)) (hgap : ∀ d ∈ gap, Text.isBlank d = true)
    (hfront : Front (lexeme ++ rest) lexeme o) :
    c.next.1 = Item.event source filename ⟨c.position + gap.length, lexeme, o⟩ ∧
      Sound source filename c.next.2 ∧
      c.next.2.position = c.position + gap.length + lexeme.length := by
  have hskip : c.skipBlanks = c.advance gap.length := by
    rw [skipBlanks, hrest, takeWhile_run hgap hfront.stopsAt_blank]
  have hleft : (c.advance gap.length).rest = lexeme ++ rest := by
    show c.rest.drop gap.length = lexeme ++ rest
    rw [hrest, List.drop_left]
  have hsound := h.advance gap.length
  -- A token and a fault move the cursor alike. A fault also keeps the line index.
  cases o with
  | token kind value =>
      have hnext : c.next = (.ok ⟨kind, value, c.position + gap.length⟩,
          (c.advance gap.length).advance lexeme.length) := by
        rw [next, hskip, hleft, hfront.step_eq]
        rfl
      rw [hnext]
      exact ⟨rfl, hsound.advance _, rfl⟩
  | fault kind =>
      have hnext : c.next = (.error ((c.advance gap.length).refuse kind lexeme.length).1,
          ((c.advance gap.length).refuse kind lexeme.length).2) := by
        rw [next, hskip, hleft, hfront.step_eq]
      have herror := hsound.refuse_error kind lexeme.length
      rw [hleft, List.take_left] at herror
      rw [hnext, herror]
      exact ⟨rfl, hsound.refuse kind lexeme.length, rfl⟩

/-- Reading on where only whitespace is left gives the end of the input. -/
theorem next_of_blank (h : Sound source filename c)
    (hblank : ∀ d ∈ c.rest, Text.isBlank d = true) :
    c.next.1 = .ok ⟨.endOfInput, none, (c.position + c.rest.length : Nat)⟩ ∧
      Sound source filename c.next.2 ∧ c.next.2.position = c.position + c.rest.length := by
  have hskip : c.skipBlanks = c.advance c.rest.length := by
    rw [skipBlanks, List.takeWhile_eq_self_iff.mpr hblank]
  have hleft : (c.advance c.rest.length).rest = [] := List.drop_length
  have hnext : c.next = (.ok ⟨.endOfInput, none, (c.position + c.rest.length : Nat)⟩,
      (c.advance c.rest.length).advance 0) := by
    rw [next, hskip, hleft]
    rfl
  rw [hnext]
  exact ⟨rfl, (h.advance _).advance 0, rfl⟩

/-- Reading on keeps a cursor sound. -/
theorem next (h : Sound source filename c) : Sound source filename c.next.2 := by
  rcases blank_or_front c.rest with hblank | ⟨gap, lexeme, rest, o, hrest, hgap, hfront⟩
  · exact (h.next_of_blank hblank).2.1
  · exact (h.next_of_front hrest hgap hfront).2.1

end Sound

/-! ### Runs of readings -/

/-- What one reading keeps, reading to the end of the input keeps. -/
theorem tokenize_preserves {P : Cursor → Prop} (hnext : ∀ c, P c → P c.next.2) (c : Cursor)
    (h : P c) : P c.tokenize.2 := by
  have hafter := hnext c h
  rw [tokenize]
  split
  next e after heq =>
    rw [heq] at hafter
    exact hafter
  next t after heq =>
    rw [heq] at hafter
    split
    · exact hafter
    next hkind =>
      -- The run goes on from a token, behind which less is left.
      have hshorter := next_rest_lt heq hkind
      have hlast := tokenize_preserves hnext after hafter
      split
      next e last hrun =>
        rw [hrun] at hlast
        exact hlast
      next tokens last hrun =>
        rw [hrun] at hlast
        exact hlast
termination_by c.rest.length

/-- What one reading keeps, a number of them keeps. -/
theorem take_preserves {P : Cursor → Prop} (hnext : ∀ c, P c → P c.next.2) (n : Nat)
    (c : Cursor) (h : P c) : P (c.take n).2 := by
  induction n generalizing c with
  | zero => exact h
  | succ n ih =>
      have hafter := hnext c h
      rw [take]
      split
      next e after heq =>
        rw [heq] at hafter
        exact hafter
      next t after heq =>
        rw [heq] at hafter
        split
        · exact hafter
        · have hlast := ih after hafter
          split
          next e last hrun =>
            rw [hrun] at hlast
            exact hlast
          next tokens last hrun =>
            rw [hrun] at hlast
            exact hlast

/-- What one reading keeps holds of every cursor that reading reaches. -/
theorem Reached.induct_next {P : Cursor → Prop} (hstart : P (Cursor.start source filename))
    (hnext : ∀ c, P c → P c.next.2) (h : Reached source filename c) : P c := by
  induction h with
  | start => exact hstart
  | @perform c _ op reads ih =>
      cases op with
      | next => exact hnext c ih
      | tokenize => exact tokenize_preserves hnext c ih
      | take n => exact take_preserves hnext n c ih
      -- The other operations can stop within a token and are not used here.
      | _ => exact absurd reads (by decide)

/-- Every cursor that reading reaches is sound and not past the end. -/
theorem Reached.sound_and_position_le (h : Reached source filename c) :
    Sound source filename c ∧ c.position ≤ source.length := by
  refine h.induct_next (P := fun c => Sound source filename c ∧ c.position ≤ source.length)
    ⟨.start source filename, Nat.zero_le _⟩ ?_
  rintro c ⟨hsound, hle⟩
  refine ⟨hsound.next, ?_⟩
  have hlength : c.rest.length = source.length - c.position := by
    rw [hsound.rest_eq, List.length_drop]
  -- What one reading passes over is part of what is left.
  rcases blank_or_front c.rest with hblank | ⟨gap, lexeme, rest, o, hrest, hgap, hfront⟩
  · rw [(hsound.next_of_blank hblank).2.2]
    omega
  · rw [(hsound.next_of_front hrest hgap hfront).2.2]
    rw [hrest, List.length_append, List.length_append] at hlength
    omega

end Cursor

end MonkeyScan
