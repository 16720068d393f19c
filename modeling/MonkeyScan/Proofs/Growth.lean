import MonkeyScan.Proofs.Line
import MonkeyScan.Proofs.Segmentation

/-!
# `MonkeyScan.Proofs.Growth`: a source that goes on

A scanner that has read the first part of a source has not seen the rest. What it
found is settled all the same, the last item excepted: an item ends by the character
behind it, and every item but the last has that character in the first part. The last
one may go on in the rest, as `=` does when another `=` follows, and an open string
is always the last.

* `Front.append`: what stands at the front of a text, with more of the text behind
  it, stands there however the text goes on.
* `Layout.settled`: so do the items of a text, except the last.
* `LineIndex.position_append`: a place in a text does not depend on what follows.
* `events_settled`: the events of a source but the last are the first events of every
  source that goes on from it.
-/

set_option autoImplicit false

namespace MonkeyScan

open Scan

/-- An error as it is told of another source: the same, but quoting that source. -/
def ScanError.inSource (source : Text) (e : ScanError) : ScanError :=
  { e with source := source }

/-- An event as it is told of another source. -/
def Event.inSource (source : Text) : Event → Event :=
  Except.mapError (ScanError.inSource source)

/-! ### What stands at the front -/

/-- Every part at the front of a lexeme that is no string is a lexeme itself. -/
theorem Lexeme.of_prefix {w v : Text} (h : Lexeme w) (hv : v <+: w) (hne : v ≠ [])
    (hquote : w.head? ≠ some '"') : Lexeme v := by
  obtain ⟨c, more, rfl⟩ := List.exists_cons_of_ne_nil hne
  obtain ⟨rest, rfl⟩ := hv
  rw [List.cons_append] at h hquote
  have hc : c ≠ '"' := fun hc => hquote (hc ▸ rfl)
  rcases h.cons_cases with ⟨s, hs⟩ | ⟨first, others⟩ | ⟨first, others⟩ | ⟨hquoted, -⟩
  · -- Symbols have two characters at most: a part is one character or the whole.
    have hlength : s.spelling.length ≤ 2 := by cases s <;> decide
    rw [hs] at hlength
    cases more with
    | nil => exact h.singleton hc
    | cons d others =>
        have hrest : rest = [] := by
          rw [← List.length_eq_zero_iff]
          simp only [List.length_cons, List.length_append] at hlength
          omega
        rw [hrest, List.append_nil] at h
        exact h
  · exact .word first fun d hd => others d (List.mem_append_left _ hd)
  · exact .digits first fun d hd => others d (List.mem_append_left _ hd)
  · exact absurd hquoted hc

/-- A longest lexeme with text behind it is the longest however the text goes on. -/
theorem LongestLexeme.append {s m : Text} (h : LongestLexeme s m) (hmore : m.length < s.length)
    (t : Text) : LongestLexeme (s ++ t) m := by
  refine ⟨h.lexeme, h.front.trans (List.prefix_append s t), ?_⟩
  intro w hw hlex
  rcases Nat.lt_or_ge m.length w.length with hlonger | hle
  · have hmw : m <+: w :=
      List.prefix_of_prefix_length_le (h.front.trans (List.prefix_append s t)) hw
        (Nat.le_of_lt hlonger)
    by_cases hquote : w.head? = some '"'
    · -- A string has no other lexeme at its front, so `m` is all of it.
      obtain ⟨more, rfl⟩ := List.head?_eq_some_iff.mp hquote
      obtain ⟨content, rfl, hclosed⟩ := hlex.of_quote
      rw [h.lexeme.eq_of_prefix_quoted hclosed hmw]
    · -- One character more than `m` is in `s` already, and it would be a lexeme.
      have htake : (w.take (m.length + 1)).length = m.length + 1 :=
        List.length_take_of_le hlonger
      have hlonger' : Lexeme (w.take (m.length + 1)) :=
        hlex.of_prefix (List.take_prefix _ _) (List.ne_nil_of_length_eq_add_one htake) hquote
      have hprefix : w.take (m.length + 1) <+: s :=
        List.prefix_of_prefix_length_le ((List.take_prefix _ _).trans hw)
          (List.prefix_append s t) (by rw [htake]; exact hmore)
      have hle := h.longest _ hprefix hlonger'
      rw [htake] at hle
      omega
  · exact hle

/-- What stands at the front of a text, with text behind it, stands there however the
text goes on. -/
theorem Front.append {s m : Text} {o : Outcome} (h : Front s m o) (hmore : m.length < s.length)
    (t : Text) : Front (s ++ t) m o := by
  cases h with
  | lexeme longest denotes => exact .lexeme (longest.append hmore t) denotes
  | unterminated => exact absurd hmore (Nat.lt_irrefl _)
  | illegal ink stray => exact .illegal ink stray

/-! ### Items -/

/-- The items of a text but the last are the first items of every text that goes on
from it. -/
theorem Layout.settled {offset : Nat} {s : Text} {found : List Item}
    (h : Layout offset s found) (t : Text) : found.dropLast <+: itemsFrom offset (s ++ t) := by
  induction h with
  | blank => exact List.nil_prefix
  | @item offset gap lexeme rest outcome more blank front tail ih =>
      cases more with
      | nil => exact List.nil_prefix
      | cons next others =>
          -- Another item follows, so this one has text behind it.
          have hstart := tail.le_start next List.mem_cons_self
          have hstop := tail.stop_le next List.mem_cons_self
          have hnext := tail.start_lt_stop next List.mem_cons_self
          have hmore : lexeme.length < (lexeme ++ rest).length := by
            rw [List.length_append]
            omega
          have hfront := front.append hmore t
          rw [List.append_assoc] at hfront
          rw [List.append_assoc, List.append_assoc, itemsFrom_of_front blank hfront,
            List.dropLast_cons_of_ne_nil (List.cons_ne_nil _ _)]
          exact List.cons_prefix_cons.mpr ⟨rfl, ih⟩

/-! ### Places and events -/

/-- A place in a text does not depend on what follows the text. -/
theorem LineIndex.position_append {s : Text} {o : Nat} (h : o ≤ s.length) (t : Text) :
    (ofText (s ++ t)).position o = (ofText s).position o := by
  have hle : o ≤ (s ++ t).length := by
    rw [List.length_append]
    omega
  rw [position_ofText h, position_ofText hle]
  simp only [Text.lineOf, Text.columnOf, List.take_append_of_le_length h]

/-- The event of an item is told of a longer source as of the source alone. -/
theorem Item.event_append {s : Text} {i : Item} (hi : i ∈ items s) (t filename : Text) :
    i.event (s ++ t) filename = (i.event s filename).inSource (s ++ t) := by
  have hstop := (layout_itemsFrom 0 s).stop_le i hi
  have hstart : i.start ≤ s.length := by
    rw [Item.stop] at hstop
    omega
  unfold event
  split
  · rfl
  · rw [LineIndex.position_append hstart]
    rfl

/-- Text behind a source changes its last event at most: the others come first in the
whole, with the same values and places, in the same order. -/
theorem events_settled (s t filename : Text) :
    (events (s ++ t) filename).take ((events s filename).length - 1)
      = (events s filename).dropLast.map (Event.inSource (s ++ t)) := by
  have hprefix : (items s).dropLast <+: items (s ++ t) :=
    (layout_itemsFrom 0 s).settled t
  have htake : (items (s ++ t)).take ((items s).length - 1) = (items s).dropLast := by
    rw [← List.length_dropLast]
    exact (List.prefix_iff_eq_take.mp hprefix).symm
  -- Each item has one event, so what holds of the items is told by the events.
  rw [events_eq, events_eq, List.length_map, ← List.map_take, htake, ← List.map_dropLast,
    List.map_map]
  refine List.map_congr_left fun i hi => ?_
  exact Item.event_append (List.dropLast_subset _ hi) t filename

/-- The last event may change: `=` assigns, but not where another `=` follows. -/
example : (events ['=', '='] []).take 1 ≠ (events ['='] []).map (Event.inSource ['=', '=']) := by
  rw [events_eq, events_eq]
  decide +kernel

end MonkeyScan
