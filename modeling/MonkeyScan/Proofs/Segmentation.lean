import MonkeyScan.Proofs.Event
import MonkeyScan.Proofs.Layout
import MonkeyScan.Proofs.Spelling
import MonkeyScan.Tokenize

/-!
# `MonkeyScan.Proofs.Segmentation`: nothing of a source is lost

A reading of a whole source gives tokens and errors in two lists. `events`
merges the two by offset. Each event takes a span of the source, and
`Segments` says what the spans are like: they are not empty, they do not
overlap, whitespace alone is outside them, and each holds the lexeme of its
event.

* `events_eq`: the merged list is that of the items of the source, in order.
* `segments_items`: the spans of the items are segments of the source.
* `tokenizeAll_segments`: so the events of every source segment it.
-/

set_option autoImplicit false

namespace MonkeyScan

open Scan

/-! ### Segments of a source -/

namespace Event

/-- Whether an event starts no later than another. -/
def le (a b : Event) : Bool :=
  decide (start a ≤ start b)

/-- What an event says of the span that it takes: a token starts there and is
spelled by it, and an error points there and quotes it. -/
def Takes (source : Text) (start : Nat) (lexeme : Text) : Event → Prop
  | .ok t => t.offset = start ∧ Spells t.content lexeme
  | .error e =>
    e.position.offset = start ∧ e.text = lexeme ∧
      e.position = (LineIndex.ofText source).position e.position.offset

end Event

/-- The tokens of a source but the end of the input, and its errors, merged by
offset. -/
def events (source filename : Text) : List Event :=
  let (tokens, errors) := tokenizeAll source filename
  ((tokens.filter fun t => t.kind ≠ .endOfInput).map Except.ok).merge
    (errors.map Except.error) Event.le

/-- An event with the offsets between which it lies. -/
structure Span where
  event : Event
  start : Nat
  stop : Nat

/-- The characters of a source that a span takes. -/
def Span.text (p : Span) (source : Text) : Text :=
  (source.drop p.start).take (p.stop - p.start)

/-- Spans that account for every character of a source. -/
structure Segments (source : Text) (spans : List Span) : Prop where
  nonempty : ∀ p ∈ spans, p.start < p.stop
  within : ∀ p ∈ spans, p.stop ≤ source.length
  apart : spans.Pairwise fun p q => p.stop ≤ q.start
  /-- What is in no span is whitespace. -/
  blank : ∀ k c, source[k]? = some c →
    (∀ p ∈ spans, ¬ (p.start ≤ k ∧ k < p.stop)) → Text.isBlank c = true
  takes : ∀ p ∈ spans, Event.Takes source p.start (p.text source) p.event
  /-- Whitespace and the texts of the spans, in turn, are the source. -/
  rebuilt : ∃ (gaps : List Text) (last : Text), gaps.length = spans.length ∧
    (∀ gap ∈ gaps, ∀ c ∈ gap, Text.isBlank c = true) ∧
    (∀ c ∈ last, Text.isBlank c = true) ∧
    source = (gaps.zipWith (· ++ ·) (spans.map fun p => p.text source)).flatten ++ last

/-! ### The events are those of the items -/

section
variable {source filename : Text}

/-- Merging takes the first of the left list where it comes before all of the
right. -/
theorem merge_cons_left {x : Event} {xs ys : List Event}
    (h : ∀ y ∈ ys, Event.le x y = true) :
    (x :: xs).merge ys Event.le = x :: xs.merge ys Event.le := by
  cases ys with
  | nil => rw [List.merge_right, List.merge_right]
  | cons y ys => exact List.cons_merge_cons_pos _ _ _ (h y List.mem_cons_self)

/-- Merging takes the first of the right list where it comes before all of the
left. -/
theorem merge_cons_right {y : Event} {xs ys : List Event}
    (h : ∀ x ∈ xs, ¬ Event.le x y = true) :
    xs.merge (y :: ys) Event.le = y :: xs.merge ys Event.le := by
  cases xs with
  | nil => rw [List.nil_merge, List.nil_merge]
  | cons x xs => exact List.cons_merge_cons_neg _ _ _ (h x List.mem_cons_self)

/-- A token of some items starts where one of them does. -/
theorem exists_start_of_mem_tokens {found : List Item} {x : Event}
    (hx : x ∈ (found.filterMap Item.token?).map Except.ok) :
    ∃ i ∈ found, Event.start x = i.start := by
  obtain ⟨t, ht, rfl⟩ := List.mem_map.mp hx
  obtain ⟨i, hi, -, hoffset⟩ := mem_filterMap_token?.mp ht
  exact ⟨i, hi, hoffset⟩

/-- An error of some items starts where one of them does. -/
theorem exists_start_of_mem_errors {index : LineIndex} {found : List Item} {x : Event}
    (hx : x ∈ (found.filterMap (Item.error? source filename index)).map Except.error) :
    ∃ i ∈ found, Event.start x = i.start := by
  obtain ⟨e, he, rfl⟩ := List.mem_map.mp hx
  obtain ⟨i, hi, -, heq⟩ := mem_filterMap_error?.mp he
  refine ⟨i, hi, ?_⟩
  show e.position.offset = i.start
  rw [heq]
  rfl

/-- The tokens and the errors of items in order, merged by offset, are the
events of the items. -/
theorem merge_items {found : List Item}
    (hfound : found.Pairwise fun i j => i.start < j.start) :
    ((found.filterMap Item.token?).map Except.ok).merge
        ((found.filterMap (Item.error? source filename (LineIndex.ofText source))).map
          Except.error) Event.le
      = found.map (Item.event source filename) := by
  induction hfound with
  | nil => exact List.nil_merge _
  | @cons i more hfirst _ ih =>
      rw [List.map_cons, ← ih]
      -- The event of `i` is in one of the lists and starts before all others in both.
      have hstart := i.event_start source filename
      rcases i.event_cases source filename with
        ⟨t, htoken, herror, hevent⟩ | ⟨e, htoken, herror, hevent⟩
      · rw [hevent] at hstart
        rw [List.filterMap_cons_some htoken, List.filterMap_cons_none herror, List.map_cons,
          hevent]
        refine merge_cons_left fun y hy => ?_
        obtain ⟨j, hj, hyj⟩ := exists_start_of_mem_errors hy
        have hlt := hfirst j hj
        rw [Event.le, decide_eq_true_eq, hyj, hstart]
        omega
      · rw [hevent] at hstart
        rw [List.filterMap_cons_none htoken, List.filterMap_cons_some herror, List.map_cons,
          hevent]
        refine merge_cons_right fun x hx => ?_
        obtain ⟨j, hj, hxj⟩ := exists_start_of_mem_tokens hx
        have hlt := hfirst j hj
        rw [Event.le, decide_eq_true_eq, hxj, hstart]
        omega

/-- The events of a source are those of its items. -/
theorem events_eq (source filename : Text) :
    events source filename = (items source).map (Item.event source filename) := by
  have hlayout := layout_itemsFrom 0 source
  have htokens : ((items source).filterMap Item.token? ++ [endToken source]).filter
      (fun t => t.kind ≠ .endOfInput) = (items source).filterMap Item.token? := by
    rw [List.filter_append, List.filter_eq_self.mpr, List.filter_cons_of_neg (by simp [endToken]),
      List.filter_nil, List.append_nil]
    -- Every token of an item is spelled by its lexeme, and the end of the input never is.
    intro t ht
    obtain ⟨i, hi, houtcome, -⟩ := mem_filterMap_token?.mp ht
    obtain ⟨rest, -, hfront⟩ := hlayout.front_at i hi
    rw [houtcome] at hfront
    exact decide_eq_true hfront.spells.kind_ne_endOfInput
  show ((((items source).filterMap Item.token? ++ [endToken source]).filter
      (fun t => t.kind ≠ .endOfInput)).map Except.ok).merge _ _ = _
  rw [htokens]
  exact merge_items hlayout.starts_increase

/-! ### The segments -/

namespace Item

/-- The span that an item takes. -/
def span (source filename : Text) (i : Item) : Span :=
  ⟨i.event source filename, i.start, i.stop⟩

/-- What an item at the front of a text says of its span. -/
theorem event_takes {i : Item} {rest : Text}
    (h : Front (i.lexeme ++ rest) i.lexeme i.outcome) :
    Event.Takes source i.start i.lexeme (i.event source filename) := by
  unfold event
  split
  next kind value houtcome =>
    rw [houtcome] at h
    exact ⟨rfl, h.spells⟩
  next kind _ => exact ⟨rfl, rfl, rfl⟩

/-- The text of the span of an item is its lexeme. -/
theorem span_text {i : Item} (hi : i ∈ items source) :
    (i.span source filename).text source = i.lexeme := by
  obtain ⟨rest, hdrop, -⟩ := items_front_at hi
  show (source.drop i.start).take (i.start + i.lexeme.length - i.start) = i.lexeme
  rw [hdrop, Nat.add_sub_cancel_left, List.take_left]

end Item

/-- The spans of the items of a source are segments of it. -/
theorem segments_items (source filename : Text) :
    Segments source ((items source).map (Item.span source filename)) := by
  have hlayout := layout_itemsFrom 0 source
  constructor
  case nonempty =>
    intro p hp
    obtain ⟨i, hi, rfl⟩ := List.mem_map.mp hp
    exact hlayout.start_lt_stop i hi
  case within =>
    intro p hp
    obtain ⟨i, hi, rfl⟩ := List.mem_map.mp hp
    have hle := hlayout.stop_le i hi
    rw [Nat.zero_add] at hle
    exact hle
  case apart => exact List.pairwise_map.mpr hlayout.pairwise
  case blank =>
    intro k c hc hout
    refine hlayout.isBlank_outside hc fun i hi => ?_
    rw [Nat.zero_add]
    exact hout _ (List.mem_map_of_mem hi)
  case takes =>
    intro p hp
    obtain ⟨i, hi, rfl⟩ := List.mem_map.mp hp
    obtain ⟨rest, -, hfront⟩ := hlayout.front_at i hi
    rw [Item.span_text hi]
    exact Item.event_takes hfront
  case rebuilt =>
    obtain ⟨gaps, last, hlength, hgaps, hlast, hsource⟩ := hlayout.exists_gaps
    have htexts : ((items source).map (Item.span source filename)).map
        (fun p => p.text source) = (items source).map Item.lexeme := by
      rw [List.map_map]
      exact List.map_congr_left fun i hi => Item.span_text hi
    refine ⟨gaps, last, ?_, hgaps, hlast, ?_⟩
    · rw [List.length_map]
      exact hlength
    · rw [htexts]
      exact hsource

/-- The tokens and errors of a source, the end of the input left out, account
for each of its characters. -/
theorem tokenizeAll_segments (source filename : Text) :
    ∃ spans : List Span, spans.map Span.event = events source filename ∧
      Segments source spans := by
  refine ⟨_, ?_, segments_items source filename⟩
  rw [events_eq, List.map_map]
  rfl

end

end MonkeyScan
