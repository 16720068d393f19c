import Mathlib.Data.List.Pairwise
import MonkeyScan.Diagnostics
import MonkeyScan.Proofs.Line
import MonkeyScan.Proofs.Lists
import MonkeyScan.Proofs.Segmentation

/-!
# `MonkeyScan.Proofs.Diagnosis`: the diagnostics of a text

The diagnostics of a text come from two lists, the errors and the tokens, are
put together and sorted by the places where they start. `Diagnosis` says what
they are without the two lists and the sorting: one for each error and each
illegal character in the order of their offsets, each on the characters it is
about and on no others.

* `Range.covers_ofPosition`: a range covers the characters that stand at its
  position.
* `Item.diagnostic_cases`: an item has a diagnostic if and only if it is an
  error or an illegal character, and the diagnostic is about its lexeme.
* `diagnostics_eq_filterMap`: sorting puts the diagnostics in the order of the
  items.
* `diagnostics_eq_of_filename`: the name of the text does not count.
* `diagnosis_diagnostics`: so they are a diagnosis of the text.
-/

set_option autoImplicit false

namespace MonkeyScan

open Scan

/-! ### What diagnostics should be -/

/-- Whether an event is an error or an illegal character. -/
def Event.isNotable : Event → Bool
  | .ok t => t.kind == .illegal
  | .error _ => true

/-- A range is on one line of a text and does not go beyond it, starts at an offset
of the text, and covers certain characters there. -/
def Range.Covers (r : Range) (t : Text) (o : Int) (covered : Text) : Prop :=
  ∃ (n first : Nat) (line : Text),
    r = ⟨n, first, n, (first + covered.length : Nat)⟩ ∧ (Text.lines t)[n]? = some line ∧
    first + covered.length ≤ line.length ∧ (line.drop first).take covered.length = covered ∧
    o = (t.lineStart n + first : Nat)

namespace Diagnostic

/-- What a diagnostic says of an event in a text. The range of an error covers the
offending text up to its first line feed. -/
inductive Tells (t : Text) : Event → Diagnostic → Prop where
  | error {e : ScanError} {r : Range}
      (covers : r.Covers t e.position.offset (e.text.takeWhile (· != '\n'))) :
      Tells t (.error e) ⟨r, .error, e.message⟩
  | illegal {c : Char} {o : Int} {r : Range} (covers : r.Covers t o [c]) :
      Tells t (.ok ⟨.illegal, some (.text [c]), o⟩)
        ⟨r, .warning, "illegal character ".toList ++ Text.quoted [c]⟩

/-- Whether a diagnostic starts on an earlier line than another, or further left on
the same line. -/
def Before (a b : Diagnostic) : Prop :=
  a.range.startLine < b.range.startLine ∨
    (a.range.startLine = b.range.startLine ∧ a.range.startCharacter < b.range.startCharacter)

/-- Whether two diagnostics are on different lines, or the first ends before the
second starts. -/
def Apart (a b : Diagnostic) : Prop :=
  a.range.startLine = b.range.startLine → a.range.endCharacter ≤ b.range.startCharacter

end Diagnostic

/-- The diagnostics that a text should have. -/
structure Diagnosis (t : Text) (ds : List Diagnostic) : Prop where
  /-- There is one for each error and each illegal character, and no other. -/
  complete : ∀ filename,
    List.Forall₂ (Diagnostic.Tells t) ((events t filename).filter Event.isNotable) ds
  /-- These errors and characters are in the order of their offsets. -/
  offsets : ∀ filename, ((events t filename).filter Event.isNotable).Pairwise
    fun x y => Event.start x < Event.start y
  ordered : ds.Pairwise Diagnostic.Before
  disjoint : ds.Pairwise Diagnostic.Apart

/-! ### Ranges -/

namespace Range

variable {t : Text} {o : Nat}

/-- The range of some characters at an offset. -/
theorem ofPosition_ofText (h : o ≤ t.length) (n : Nat) :
    ofPosition ((LineIndex.ofText t).position o) n
      = ⟨t.lineOf o, t.columnOf o, t.lineOf o, (t.columnOf o + n : Nat)⟩ := by
  rw [LineIndex.position_ofText h]
  simp [ofPosition]

/-- The range at the position of an offset covers what stands there, up to the first
line feed. -/
theorem covers_ofPosition {lexeme rest : Text} (h : o ≤ t.length)
    (hdrop : t.drop o = lexeme ++ rest) :
    (ofPosition ((LineIndex.ofText t).position o)
      (lexeme.takeWhile (· != '\n')).length).Covers t o (lexeme.takeWhile (· != '\n')) := by
  -- The rest of the line starts with what is covered.
  obtain ⟨more, hmore⟩ : lexeme.takeWhile (· != '\n') <+: (t.drop o).takeWhile (· != '\n') := by
    rw [hdrop, List.takeWhile_append]
    split
    next hall =>
      exact (List.takeWhile_prefix _).trans (List.prefix_append _ _)
    next => exact List.prefix_rfl
  have hline : t.lineAt o
      = Text.lastLine (t.take o) ++ (lexeme.takeWhile (· != '\n') ++ more) := by
    rw [Text.lineAt, hmore]
  refine ⟨t.lineOf o, t.columnOf o, t.lineAt o, ofPosition_ofText h _, t.getElem?_lines o,
    ?_, ?_, ?_⟩
  · rw [hline, Text.columnOf, List.length_append, List.length_append]
    omega
  · rw [hline, Text.columnOf, List.drop_left, List.take_left]
  · rw [Text.lineStart_add_columnOf h]

end Range

/-! ### The diagnostics of items -/

/-- The range of the characters of an item that are on its first line. -/
def Item.range (t : Text) (i : Item) : Range :=
  Range.ofPosition ((LineIndex.ofText t).position i.start)
    (i.lexeme.takeWhile (· != '\n')).length

/-- The diagnostic of an item of a text, if it has one. -/
def Item.diagnostic? (t : Text) (i : Item) : Option Diagnostic :=
  match i.event t [] with
  | .ok token => Diagnostic.ofToken? (LineIndex.ofText t) token
  | .error e => some (Diagnostic.ofError e)

namespace Item

variable {t : Text} {i j : Item}

/-- What is known of an item of a text. -/
theorem front_of_mem (hi : i ∈ items t) :
    i.stop ≤ t.length ∧ ∃ rest, t.drop i.start = i.lexeme ++ rest ∧
      Front (i.lexeme ++ rest) i.lexeme i.outcome := by
  have hstop := (layout_itemsFrom 0 t).stop_le i hi
  rw [Nat.zero_add] at hstop
  exact ⟨hstop, items_front_at hi⟩

/-- The range of an item covers its lexeme up to the first line feed. -/
theorem range_covers (hi : i ∈ items t) :
    (i.range t).Covers t i.start (i.lexeme.takeWhile (· != '\n')) := by
  obtain ⟨hstop, rest, hdrop, -⟩ := front_of_mem hi
  rw [stop] at hstop
  exact Range.covers_ofPosition (by omega) hdrop

/-- The lexeme of an item does not start with a line feed. -/
theorem length_firstLine_pos (hi : i ∈ items t) :
    0 < (i.lexeme.takeWhile (· != '\n')).length := by
  obtain ⟨-, rest, -, hfront⟩ := front_of_mem hi
  obtain ⟨c, more, hlexeme, ink⟩ := hfront.exists_head
  have hc : c ≠ '\n' := Text.ne_of_isBlank ink (by decide)
  simp [hlexeme, hc]

/-- An item has a diagnostic if it is an error or an illegal character, and no other
item has one. The diagnostic is about the lexeme of the item. -/
theorem diagnostic_cases (hi : i ∈ items t) (filename : Text) :
    (Event.isNotable (i.event t filename) = false ∧ i.diagnostic? t = none) ∨
    (Event.isNotable (i.event t filename) = true ∧ ∃ d, i.diagnostic? t = some d ∧
      Diagnostic.Tells t (i.event t filename) d ∧ d.range = i.range t) := by
  have hcovers := range_covers hi
  have hpos := length_firstLine_pos hi
  obtain ⟨-, rest, -, hfront⟩ := front_of_mem hi
  obtain ⟨start, lexeme, outcome⟩ := i
  cases outcome with
  | fault kind =>
      refine Or.inr ⟨rfl, ⟨range t ⟨start, lexeme, .fault kind⟩, .error, kind.message lexeme⟩,
        ?_, .error hcovers, rfl⟩
      -- The range is one character wide at least in any case.
      show some (Diagnostic.mk (Range.ofPosition _ (max 1 _)) _ _) = _
      rw [Nat.max_eq_right hpos]
      rfl
  | token kind value =>
      have hspells := hfront.spells
      by_cases hkind : kind = .illegal
      · subst hkind
        cases hspells with
        | illegal c =>
            have hink : ([c] : Text).takeWhile (· != '\n') = [c] := by
              have hle := (List.takeWhile_prefix (l := [c]) (· != '\n')).eq_of_length_le hpos
              exact hle
            rw [hink] at hcovers
            refine Or.inr ⟨rfl, ⟨range t ⟨start, [c], _⟩, .warning, _⟩, ?_, .illegal hcovers, rfl⟩
            show some (Diagnostic.mk (Range.ofPosition _ 1) _ _) = _
            rw [range, hink]
            rfl
      · refine Or.inl ⟨beq_eq_false_iff_ne.mpr hkind, ?_⟩
        show Diagnostic.ofToken? _ ⟨kind, value, _⟩ = none
        cases kind with
        | illegal => exact absurd rfl hkind
        | _ => rfl

/-- The range of an item that comes before another starts before it, and ends before
it where they are on one line. -/
theorem range_lt (hi : i ∈ items t) (hj : j ∈ items t) (hij : i.stop ≤ j.start)
    {a b : Diagnostic} (ha : a.range = i.range t) (hb : b.range = j.range t) :
    a.Before b ∧ a.Apart b := by
  obtain ⟨histop, -⟩ := front_of_mem hi
  obtain ⟨hjstop, -⟩ := front_of_mem hj
  have hpos := length_firstLine_pos hi
  have hle : (i.lexeme.takeWhile (· != '\n')).length ≤ i.lexeme.length :=
    (List.takeWhile_prefix _).length_le
  rw [stop] at hij histop hjstop
  rw [Diagnostic.Before, Diagnostic.Apart, ha, hb, range, range,
    Range.ofPosition_ofText (by omega), Range.ofPosition_ofText (by omega)]
  have hplace := t.place_lt (o := i.start) (p := j.start) (by omega) (by omega)
  refine ⟨?_, ?_⟩
  · show (t.lineOf i.start : Int) < t.lineOf j.start ∨
      (t.lineOf i.start : Int) = t.lineOf j.start ∧
        (t.columnOf i.start : Int) < t.columnOf j.start
    omega
  · show (t.lineOf i.start : Int) = t.lineOf j.start →
      ((t.columnOf i.start + (i.lexeme.takeWhile (· != '\n')).length : Nat) : Int)
        ≤ t.columnOf j.start
    omega

end Item

/-! ### All diagnostics of a text -/

/-- Of two ways to pick from a list, one does for each member what a third does, and
the other picks nothing. Then both together pick what the third does. -/
theorem perm_filterMap_append {α β : Type} {f g h : α → Option β} {l : List α}
    (hl : ∀ x ∈ l, (f x = h x ∧ g x = none) ∨ (f x = none ∧ g x = h x)) :
    (l.filterMap f ++ l.filterMap g).Perm (l.filterMap h) := by
  induction l with
  | nil => exact .nil
  | cons x more ih =>
      obtain ⟨hx, hmore⟩ := List.forall_mem_cons.mp hl
      have hperm := ih hmore
      rcases hx with ⟨hf, hg⟩ | ⟨hf, hg⟩
      · rw [List.filterMap_cons, List.filterMap_cons, List.filterMap_cons, hf, hg]
        cases h x with
        | none => exact hperm
        | some y => exact hperm.cons y
      · rw [List.filterMap_cons, List.filterMap_cons, List.filterMap_cons, hf, hg]
        cases h x with
        | none => exact hperm
        | some y => exact List.perm_middle.trans (hperm.cons y)

section
variable (t : Text)

/-- The diagnostics of the items of a text, in order, are before one another and
apart. -/
theorem pairwise_diagnostic? :
    ((items t).filterMap (Item.diagnostic? t)).Pairwise fun a b => a.Before b ∧ a.Apart b := by
  rw [List.pairwise_filterMap]
  refine (layout_itemsFrom 0 t).pairwise.imp_of_mem ?_
  intro i j hi hj hij a ha b hb
  have hrange : ∀ {i : Item} {d : Diagnostic}, i ∈ items t → i.diagnostic? t = some d →
      d.range = i.range t := by
    intro i d hi hd
    rcases Item.diagnostic_cases hi [] with ⟨-, hnone⟩ | ⟨-, d', hd', -, hrange⟩
    · rw [hnone] at hd
      exact nomatch hd
    · rw [hd'] at hd
      rw [← Option.some.inj hd]
      exact hrange
  exact Item.range_lt hi hj hij (hrange hi ha) (hrange hj hb)

/-- Whether a diagnostic starts no later than another, in words. -/
theorem Diagnostic.startsBy_iff (a b : Diagnostic) :
    a.startsBy b = true ↔ a.range.startLine < b.range.startLine ∨
      (a.range.startLine = b.range.startLine ∧
        a.range.startCharacter ≤ b.range.startCharacter) := by
  simp [startsBy]

/-- The two lists of diagnostics hold those of the items. -/
theorem perm_diagnostic? :
    (diagnostics t).Perm ((items t).filterMap (Item.diagnostic? t)) := by
  refine (List.mergeSort_perm _ _).trans ?_
  show (((items t).filterMap _).map Diagnostic.ofError ++
    ((items t).filterMap Item.token? ++ [endToken t]).filterMap _).Perm _
  have hend : [endToken t].filterMap (Diagnostic.ofToken? (LineIndex.ofText t)) = [] := rfl
  rw [List.filterMap_append, hend, List.append_nil, List.map_filterMap, List.filterMap_filterMap]
  refine perm_filterMap_append fun i _ => ?_
  rcases i.event_cases t [] with ⟨token, htoken, herror, hevent⟩ | ⟨e, htoken, herror, hevent⟩
  · exact Or.inr ⟨by rw [herror]; rfl, by rw [htoken, Item.diagnostic?, hevent]; rfl⟩
  · exact Or.inl ⟨by rw [herror, Item.diagnostic?, hevent]; rfl, by rw [htoken]; rfl⟩

/-- Of two different diagnostics of a text one starts before the other. -/
theorem before_or_before_of_ne {a b : Diagnostic} (ha : a ∈ diagnostics t)
    (hb : b ∈ diagnostics t) (hne : a ≠ b) : a.Before b ∨ b.Before a := by
  have hor : ((items t).filterMap (Item.diagnostic? t)).Pairwise
      fun a b => a.Before b ∨ b.Before a := (pairwise_diagnostic? t).imp fun h => Or.inl h.1
  have : Std.Symm fun a b : Diagnostic => a.Before b ∨ b.Before a := ⟨fun _ _ h => h.symm⟩
  have hperm := perm_diagnostic? t
  exact hor.forall (hperm.mem_iff.mp ha) (hperm.mem_iff.mp hb) hne

/-- The diagnostics of a text are those of its items, in order. -/
theorem diagnostics_eq_filterMap :
    diagnostics t = (items t).filterMap (Item.diagnostic? t) := by
  have hbefore := pairwise_diagnostic? t
  have hperm := perm_diagnostic? t
  have hsorted : (diagnostics t).Pairwise fun a b => a.startsBy b = true := by
    refine List.pairwise_mergeSort ?_ ?_ _
    · intro a b c hab hbc
      rw [Diagnostic.startsBy_iff] at hab hbc ⊢
      omega
    · intro a b
      rw [Bool.or_eq_true, Diagnostic.startsBy_iff, Diagnostic.startsBy_iff]
      omega
  have hstarts : ((items t).filterMap (Item.diagnostic? t)).Pairwise
      fun a b => a.startsBy b = true := by
    refine hbefore.imp ?_
    rintro a b ⟨hab, -⟩
    rw [Diagnostic.Before] at hab
    rw [Diagnostic.startsBy_iff]
    omega
  refine hperm.eq_of_pairwise ?_ hsorted hstarts
  -- Two different diagnostics do not start at the same place, so the order is fixed.
  intro a b ha hb hab hba
  by_contra hne
  have hplaces := before_or_before_of_ne t ha (hperm.mem_iff.mpr hb) hne
  rw [Diagnostic.Before, Diagnostic.Before] at hplaces
  rw [Diagnostic.startsBy_iff] at hab hba
  omega

/-- The diagnostics of a text are the same under every name of it. A name is told with the
errors, and no diagnostic has it. -/
theorem diagnostics_eq_of_filename (filename : Text) :
    ((tokenizeAll t filename).2.map Diagnostic.ofError ++
        (tokenizeAll t filename).1.filterMap (Diagnostic.ofToken? (LineIndex.ofText t))).mergeSort
      Diagnostic.startsBy = diagnostics t := by
  have herrors : (tokenizeAll t filename).2.map Diagnostic.ofError
      = (tokenizeAll t []).2.map Diagnostic.ofError := by
    show ((items t).filterMap _).map _ = ((items t).filterMap _).map _
    rw [List.map_filterMap, List.map_filterMap]
    refine List.filterMap_congr fun i _ => ?_
    rw [Item.error?, Item.error?]
    cases i.outcome <;> rfl
  rw [herrors]
  rfl

/-- The diagnostics of a text are what they should be. -/
theorem diagnosis_diagnostics : Diagnosis t (diagnostics t) := by
  rw [diagnostics_eq_filterMap]
  constructor
  case complete =>
    intro filename
    rw [events_eq, ← List.filterMap_eq_filter, List.filterMap_map]
    refine forall₂_filterMap fun i hi => ?_
    rcases Item.diagnostic_cases hi filename with ⟨hplain, hnone⟩ | ⟨hnotable, d, hd, htells, -⟩
    · exact Or.inl ⟨by simp [Option.guard, hplain], hnone⟩
    · exact Or.inr ⟨_, d, by simp [Option.guard, hnotable], hd, htells⟩
  case offsets =>
    intro filename
    rw [events_eq]
    refine List.Pairwise.filter _ (List.pairwise_map.mpr ?_)
    refine (layout_itemsFrom 0 t).starts_increase.imp ?_
    intro i j hij
    rw [Item.event_start, Item.event_start]
    omega
  case ordered => exact (pairwise_diagnostic? t).imp fun h => h.1
  case disjoint => exact (pairwise_diagnostic? t).imp fun h => h.2

end

end MonkeyScan
