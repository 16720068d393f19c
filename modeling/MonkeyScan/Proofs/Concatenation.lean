import MonkeyScan.Proofs.Layout
import MonkeyScan.Tokenize

/-!
# `MonkeyScan.Proofs.Concatenation`: sources with whitespace between them

Two sources that whitespace separates are read independently: the tokens and
errors of the whole are those of the first, then those of the second. The
second ones are moved on, and all lines and columns are those of the whole.
The first source must have no open string, which would take the whitespace
and the second source into it.

* `items_append`: the items of the whole are those of the two sources.
* `tokenizeAll_append`: and so are its tokens and errors.
-/

set_option autoImplicit false

namespace MonkeyScan

open Scan

/-- A token that stands `n` characters further on. -/
def Token.shift (n : Nat) (t : Token) : Token :=
  { t with offset := t.offset + n }

/-- An error in a source that stands `n` characters further on in a whole. Its
line and column are those of the whole. -/
def ScanError.relocate (whole : Text) (n : Nat) (e : ScanError) : ScanError :=
  { e with
      position := (LineIndex.ofText whole).position (e.position.offset + n)
      source := whole }

/-! ### Moving items -/

namespace Item

/-- The token of an item moves with it. -/
theorem token?_shift (n : Nat) (i : Item) :
    (i.shift n).token? = i.token?.map (Token.shift n) := by
  obtain ⟨start, lexeme, outcome⟩ := i
  cases outcome with
  | token kind value => rfl
  | fault kind => rfl

/-- The error of an item moves with it, to the line and column of the whole. -/
theorem error?_shift (whole source filename : Text) (index : LineIndex) (n : Nat) (i : Item) :
    (i.shift n).error? whole filename (LineIndex.ofText whole)
      = (i.error? source filename index).map (ScanError.relocate whole n) := by
  obtain ⟨start, lexeme, outcome⟩ := i
  cases outcome with
  | token kind value => rfl
  | fault kind => rfl

/-- The tokens of items move with them. -/
theorem filterMap_token?_shift (n : Nat) (found : List Item) :
    (found.map (shift n)).filterMap token? = (found.filterMap token?).map (Token.shift n) := by
  have hshift : token? ∘ shift n = fun i => i.token?.map (Token.shift n) :=
    funext (token?_shift n)
  rw [List.filterMap_map, hshift, List.map_filterMap]

/-- The errors of items move with them. -/
theorem filterMap_error?_shift (whole source filename : Text) (index : LineIndex) (n : Nat)
    (found : List Item) :
    (found.map (shift n)).filterMap (error? whole filename (LineIndex.ofText whole))
      = (found.filterMap (error? source filename index)).map (ScanError.relocate whole n) := by
  have hshift : error? whole filename (LineIndex.ofText whole) ∘ shift n
      = fun i => (i.error? source filename index).map (ScanError.relocate whole n) :=
    funext (error?_shift whole source filename index n)
  rw [List.filterMap_map, hshift, List.map_filterMap]

end Item

/-! ### The whole and its parts -/

section
variable {a gap b : Text}

/-- The items of two texts with whitespace between them. -/
theorem items_append (hne : gap ≠ []) (hgap : ∀ c ∈ gap, Text.isBlank c = true)
    (hclosed : ∀ i ∈ items a, i.outcome ≠ .fault .unterminatedString) :
    items (a ++ gap ++ b) = items a ++ (items b).map (Item.shift (a.length + gap.length)) := by
  have ha := layout_itemsFrom 0 a
  have hb := (layout_itemsFrom 0 b).shift (a.length + gap.length)
  rw [← Nat.add_assoc] at hb
  rw [List.append_assoc]
  exact (ha.append_blank hclosed hne hgap hb).itemsFrom_eq

/-- A source without an error for an open string has no such item. -/
theorem outcome_ne_unterminated {source filename : Text}
    (h : ∀ e ∈ (tokenizeAll source filename).2, e.kind ≠ .unterminatedString) :
    ∀ i ∈ items source, i.outcome ≠ .fault .unterminatedString := by
  intro i hi houtcome
  have herror : i.error? source filename (LineIndex.ofText source)
      = some ⟨.unterminatedString, FaultKind.message .unterminatedString i.lexeme,
          (LineIndex.ofText source).position i.start, i.lexeme, source, filename⟩ := by
    simp only [Item.error?, houtcome]
  exact h _ (List.mem_filterMap.mpr ⟨i, hi, herror⟩) rfl

/-- The tokens and errors of two sources with whitespace between them, where the
first has no open string. -/
theorem tokenizeAll_append (filename : Text) (hne : gap ≠ [])
    (hgap : ∀ c ∈ gap, Text.isBlank c = true)
    (hclosed : ∀ e ∈ (tokenizeAll a filename).2, e.kind ≠ .unterminatedString) :
    tokenizeAll (a ++ gap ++ b) filename =
      ((tokenizeAll a filename).1.dropLast
          ++ (tokenizeAll b filename).1.map (Token.shift (a.length + gap.length)),
        (tokenizeAll a filename).2.map (ScanError.relocate (a ++ gap ++ b) 0)
          ++ (tokenizeAll b filename).2.map
            (ScanError.relocate (a ++ gap ++ b) (a.length + gap.length))) := by
  have hitems := items_append (b := b) hne hgap (outcome_ne_unterminated hclosed)
  have hend : endToken (a ++ gap ++ b)
      = (endToken b).shift (a.length + gap.length) := by
    have hlength : ((a ++ gap ++ b).length : Int) = b.length + (a.length + gap.length : Nat) := by
      rw [List.length_append, List.length_append]
      omega
    rw [endToken, hlength]
    rfl
  have hfirst : (items a).map (Item.shift 0) = items a := List.map_id _
  refine Prod.ext ?_ ?_
  · show (items (a ++ gap ++ b)).filterMap Item.token? ++ [endToken (a ++ gap ++ b)]
      = ((items a).filterMap Item.token? ++ [endToken a]).dropLast
        ++ ((items b).filterMap Item.token? ++ [endToken b]).map _
    rw [hitems, List.filterMap_append, Item.filterMap_token?_shift, List.dropLast_concat,
      List.map_append, List.map_singleton, hend, List.append_assoc]
  · show (items (a ++ gap ++ b)).filterMap _
      = ((items a).filterMap (Item.error? a filename (LineIndex.ofText a))).map _
        ++ ((items b).filterMap (Item.error? b filename (LineIndex.ofText b))).map _
    rw [hitems, List.filterMap_append, ← Item.filterMap_error?_shift,
      ← Item.filterMap_error?_shift, hfirst]

/-- Both sources may have errors: here a large integer in the first, and a string
in the second that is open to the end. -/
theorem tokenizeAll_append_faulty :
    let a := "fn 99999999999".toList
    let b := "x \"".toList
    (∀ e ∈ (tokenizeAll a []).2, e.kind ≠ .unterminatedString) ∧
    tokenizeAll (a ++ ['\n'] ++ b) [] =
      ((tokenizeAll a []).1.dropLast ++ (tokenizeAll b []).1.map (Token.shift 15),
        (tokenizeAll a []).2.map (ScanError.relocate (a ++ ['\n'] ++ b) 0)
          ++ (tokenizeAll b []).2.map (ScanError.relocate (a ++ ['\n'] ++ b) 15)) := by
  intro a b
  have hclosed : ∀ e ∈ (tokenizeAll a []).2, e.kind ≠ .unterminatedString := by decide +kernel
  have hgap : ∀ c ∈ ['\n'], Text.isBlank c = true := List.forall_mem_singleton.mpr (by decide)
  exact ⟨hclosed, tokenizeAll_append [] (List.cons_ne_nil _ _) hgap hclosed⟩

end

end MonkeyScan
