import MonkeyScan.Item

/-!
# `MonkeyScan.Proofs.Event`: what a source gives, one event at a time

Reading on in a source gives a token or an error each time. An `Event` is
either, and `Item.event` is the event of an item. The lists of tokens and
of errors that a whole source has are the two kinds of event of its items.

* `Item.event_cases`: an item is in one of the two lists, as its event.
* `mem_filterMap_token?`, `mem_filterMap_error?`: what the lists hold.
-/

set_option autoImplicit false

namespace MonkeyScan

open Scan

/-- A token or an error. -/
abbrev Event := Except ScanError Token

/-- The offset at which an event starts. -/
def Event.start : Event → Int
  | .ok t => t.offset
  | .error e => e.position.offset

namespace Item

/-- An item as an event of its source. -/
def event (source filename : Text) (i : Item) : Event :=
  match i.outcome with
  | .token kind value => .ok ⟨kind, value, i.start⟩
  | .fault kind =>
    .error ⟨kind, kind.message i.lexeme, (LineIndex.ofText source).position i.start, i.lexeme,
      source, filename⟩

/-- An event starts where its item does. -/
theorem event_start (source filename : Text) (i : Item) :
    Event.start (i.event source filename) = i.start := by
  unfold event
  split <;> rfl

section
variable {source filename : Text} {index : LineIndex} {i : Item}

/-- An item that is a token has it. -/
theorem token?_of_token {kind : Kind} {value : Option Value} (h : i.outcome = .token kind value) :
    i.token? = some ⟨kind, value, i.start⟩ := by
  simp only [token?, h]

/-- An item that is a fault has no token. -/
theorem token?_of_fault {kind : FaultKind} (h : i.outcome = .fault kind) : i.token? = none := by
  simp only [token?, h]

/-- An item that is a fault has an error at its place. -/
theorem error?_of_fault {kind : FaultKind} (h : i.outcome = .fault kind) :
    i.error? source filename index = some
      ⟨kind, kind.message i.lexeme, index.position i.start, i.lexeme, source, filename⟩ := by
  simp only [error?, h]

/-- The error of an item points to it and quotes it. -/
theorem error?_eq_some {e : ScanError} (h : i.error? source filename index = some e) :
    e.position = index.position i.start ∧ e.text = i.lexeme ∧ e.source = source ∧
      e.filename = filename := by
  obtain ⟨start, lexeme, outcome⟩ := i
  cases outcome with
  | token kind value => exact nomatch h
  | fault kind =>
      cases h
      exact ⟨rfl, rfl, rfl, rfl⟩

end

/-- An item has a token or an error, never both, and that is its event. -/
theorem event_cases (source filename : Text) (i : Item) :
    (∃ t, i.token? = some t ∧ i.error? source filename (LineIndex.ofText source) = none ∧
      i.event source filename = .ok t) ∨
    ∃ e, i.token? = none ∧ i.error? source filename (LineIndex.ofText source) = some e ∧
      i.event source filename = .error e := by
  obtain ⟨start, lexeme, outcome⟩ := i
  cases outcome with
  | token kind value => exact Or.inl ⟨_, rfl, rfl, rfl⟩
  | fault kind => exact Or.inr ⟨_, rfl, rfl, rfl⟩

end Item

/-! ### Tokens and errors of items -/

/-- The tokens of a list of items. -/
theorem mem_filterMap_token? {found : List Item} {t : Token} :
    t ∈ found.filterMap Item.token? ↔
      ∃ i ∈ found, i.outcome = .token t.kind t.value ∧ t.offset = i.start := by
  rw [List.mem_filterMap]
  refine exists_congr fun i => and_congr_right fun _ => ?_
  cases hi : i.outcome with
  | token kind value =>
      simp only [Item.token?, hi, Option.some.injEq, Outcome.token.injEq]
      constructor
      · rintro rfl
        exact ⟨⟨rfl, rfl⟩, rfl⟩
      · rintro ⟨⟨rfl, rfl⟩, hoffset⟩
        rw [← hoffset]
  | fault kind => simp [Item.token?, hi]

/-- The errors of a list of items. -/
theorem mem_filterMap_error? {source filename : Text} {index : LineIndex} {found : List Item}
    {e : ScanError} :
    e ∈ found.filterMap (Item.error? source filename index) ↔
      ∃ i ∈ found, i.outcome = .fault e.kind ∧
        e = ⟨e.kind, e.kind.message i.lexeme, index.position i.start, i.lexeme, source,
          filename⟩ := by
  rw [List.mem_filterMap]
  refine exists_congr fun i => and_congr_right fun _ => ?_
  cases hi : i.outcome with
  | token kind value => simp [Item.error?, hi]
  | fault kind =>
      simp only [Item.error?, hi, Option.some.injEq, Outcome.fault.injEq]
      constructor
      · rintro rfl
        exact ⟨rfl, rfl⟩
      · rintro ⟨hkind, he⟩
        rw [he, hkind]

end MonkeyScan
