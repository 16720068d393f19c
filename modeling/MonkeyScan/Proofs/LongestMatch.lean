import MonkeyScan.Proofs.Reading
import MonkeyScan.Tokenize

/-!
# `MonkeyScan.Proofs.LongestMatch`: reading on takes the longest lexeme

From any cursor that reading reaches, `Cursor.next` passes over the whitespace
and takes the longest lexeme at the front of what is left, whatever the
scanner looks at to find it. `ReadsLongest` states this, with what happens at
the end of the input and where no lexeme starts.

* `Front.of_lexeme`, `Front.of_no_lexeme`: what stands at the front is the
  longest lexeme if there is one, else an open string or a stray character.
* `next_longest_match`: every cursor that is reached reads the longest lexeme.
-/

set_option autoImplicit false

namespace MonkeyScan

open Scan

/-! ### The front with and without a lexeme -/

/-- Where a lexeme starts, what stands at the front is the longest one. -/
theorem Front.of_lexeme {t m w : Text} {o : Outcome} (h : Front t m o) (hw : w <+: t)
    (hlex : Lexeme w) : LongestLexeme t m ∧ Denotes m o := by
  cases h with
  | lexeme longest denotes => exact ⟨longest, denotes⟩
  | @unterminated rest opened =>
      -- The lexeme would be a string, whose closing quote is missing.
      obtain ⟨c, more, rfl⟩ := List.exists_cons_of_ne_nil hlex.ne_nil
      obtain ⟨rfl, hmore⟩ := List.cons_prefix_cons.mp hw
      obtain ⟨content, rfl, -⟩ := hlex.of_quote
      exact absurd (hmore.subset (List.mem_append_right _ List.mem_cons_self)) opened
  | @illegal c rest _ stray =>
      obtain ⟨d, more, rfl⟩ := List.exists_cons_of_ne_nil hlex.ne_nil
      obtain ⟨rfl, -⟩ := List.cons_prefix_cons.mp hw
      exact absurd hlex (stray more)

/-- Where no lexeme starts, an open string or a stray character stands at the
front. -/
theorem Front.of_no_lexeme {t m : Text} {o : Outcome} (h : Front t m o)
    (hnone : ∀ w, w <+: t → ¬ Lexeme w) :
    (t.head? = some '"' ∧ m = t ∧ o = .fault .unterminatedString) ∨
    ∃ d, t.head? = some d ∧ d ≠ '"' ∧ m = [d] ∧ o = .token .illegal (some (.text [d])) := by
  cases h with
  | lexeme longest _ => exact absurd longest.lexeme (hnone m longest.front)
  | unterminated => exact Or.inl ⟨rfl, rfl, rfl⟩
  | @illegal c rest _ stray =>
      refine Or.inr ⟨c, rfl, ?_, rfl, rfl⟩
      rintro rfl
      exact stray ['"'] (.quoted List.not_mem_nil)

namespace Cursor

variable {source filename : Text} {c : Cursor}

/-- What is left of a source at a cursor, without the whitespace in front. -/
def ahead (c : Cursor) (source : Text) : Text :=
  (source.drop c.position).dropWhile Text.isBlank

/-- The offset at which that starts. -/
def aheadAt (c : Cursor) (source : Text) : Nat :=
  c.position + ((source.drop c.position).takeWhile Text.isBlank).length

/-- Reading on from a cursor is governed by the grammar of lexemes alone. -/
structure ReadsLongest (source filename : Text) (c : Cursor) : Prop where
  /-- Where nothing is left, reading on gives the end of the input. -/
  atEnd : c.ahead source = [] →
    c.next.1 = .ok (endToken source) ∧ c.next.2.StandsAt source source.length
  /-- Where a lexeme starts, it takes the longest one. -/
  lexeme : (∃ w, w <+: c.ahead source ∧ Lexeme w) →
    ∃ m o, LongestLexeme (c.ahead source) m ∧ Denotes m o ∧
      c.next.1 = Item.event source filename ⟨c.aheadAt source, m, o⟩ ∧
      c.next.2.StandsAt source (c.aheadAt source + m.length)
  /-- Where none starts, it takes an open string to its end, or one character. -/
  noLexeme : c.ahead source ≠ [] → (∀ w, w <+: c.ahead source → ¬ Lexeme w) →
    ((c.ahead source).head? = some '"' ∧
      c.next.1 = Item.event source filename
        ⟨c.aheadAt source, c.ahead source, .fault .unterminatedString⟩ ∧
      c.next.2.StandsAt source source.length) ∨
    ∃ d, (c.ahead source).head? = some d ∧ d ≠ '"' ∧
      c.next.1 = .ok ⟨.illegal, some (.text [d]), c.aheadAt source⟩ ∧
      c.next.2.StandsAt source (c.aheadAt source + 1)

/-- A cursor with only whitespace left reads the end of the input. -/
theorem Sound.readsLongest_of_blank (h : Sound source filename c)
    (hle : c.position ≤ source.length)
    (hblank : ∀ d ∈ source.drop c.position, Text.isBlank d = true) :
    ReadsLongest source filename c := by
  have hahead : c.ahead source = [] := List.dropWhile_eq_nil_iff.mpr hblank
  have hlength : c.position + c.rest.length = source.length := by
    rw [h.rest_eq, List.length_drop]
    omega
  rw [← h.rest_eq] at hblank
  obtain ⟨hevent, hsound, hposition⟩ := h.next_of_blank hblank
  rw [hlength] at hevent hposition
  constructor
  case atEnd =>
    intro _
    refine ⟨hevent, ?_⟩
    rw [← hposition]
    exact hsound.standsAt
  case lexeme =>
    rintro ⟨w, hw, hlex⟩
    rw [hahead] at hw
    exact absurd (List.prefix_nil.mp hw) hlex.ne_nil
  case noLexeme => exact fun hne => absurd hahead hne

/-- A cursor with something ahead reads what stands at the front of that. -/
theorem Sound.readsLongest_of_front {gap lexeme rest : Text} {o : Outcome}
    (h : Sound source filename c) (hle : c.position ≤ source.length)
    (hdrop : source.drop c.position = gap ++ (lexeme ++ rest))
    (hgap : ∀ d ∈ gap, Text.isBlank d = true) (hfront : Front (lexeme ++ rest) lexeme o) :
    ReadsLongest source filename c := by
  have hstop := hfront.stopsAt_blank
  have hahead : c.ahead source = lexeme ++ rest := by
    rw [ahead, hdrop, dropWhile_run hgap hstop]
  have hat : c.aheadAt source = c.position + gap.length := by
    rw [aheadAt, hdrop, takeWhile_run hgap hstop]
  obtain ⟨hevent, hsound, hposition⟩ := h.next_of_front (h.rest_eq.trans hdrop) hgap hfront
  have hstands := hsound.standsAt
  rw [hposition, ← hat] at hstands
  rw [← hat] at hevent
  constructor
  case atEnd =>
    intro hnil
    obtain ⟨d, more, hlexeme, -⟩ := hfront.exists_head
    rw [hahead, hlexeme] at hnil
    exact absurd hnil (List.cons_ne_nil _ _)
  case lexeme =>
    rintro ⟨w, hw, hlex⟩
    rw [hahead] at hw ⊢
    obtain ⟨hlongest, hdenotes⟩ := hfront.of_lexeme hw hlex
    exact ⟨lexeme, o, hlongest, hdenotes, hevent, hstands⟩
  case noLexeme =>
    intro _ hnone
    rw [hahead] at hnone ⊢
    rcases hfront.of_no_lexeme hnone with ⟨hquote, hall, rfl⟩ | ⟨d, hhead, hd, rfl, rfl⟩
    · -- The open string is all that is left, so the cursor goes to the end of the source.
      have hend : c.aheadAt source + lexeme.length = source.length := by
        have hlength := congrArg List.length hdrop
        rw [← hall, List.length_append, List.length_drop] at hlength
        omega
      rw [hend] at hstands
      rw [← hall] at hquote ⊢
      exact Or.inl ⟨hquote, hevent, hstands⟩
    · exact Or.inr ⟨d, hhead, hd, hevent, hstands⟩

/-- Wherever reading has led, reading on takes the longest lexeme. -/
theorem next_longest_match (h : Reached source filename c) : ReadsLongest source filename c := by
  obtain ⟨hsound, hle⟩ := h.sound_and_position_le
  rcases blank_or_front (source.drop c.position) with
    hblank | ⟨gap, lexeme, rest, o, hdrop, hgap, hfront⟩
  · exact hsound.readsLongest_of_blank hle hblank
  · exact hsound.readsLongest_of_front hle hdrop hgap hfront

/-- Behind an error reading goes on with the longest lexeme: not with the keyword
that the name starts with. -/
theorem next_longest_match_after_error :
    let source := "99999999999 fnord".toList
    let c := ((Cursor.start source []).perform .next).2
    Reached source [] c ∧ ReadsLongest source [] c ∧
      c.next.1 = .ok ⟨.identifier, some (.text "fnord".toList), 12⟩ := by
  intro source c
  have hreached : Reached source [] c := .perform .start rfl
  exact ⟨hreached, next_longest_match hreached, by decide⟩

end Cursor

end MonkeyScan
