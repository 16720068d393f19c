import Mathlib.Data.List.TakeWhile
import MonkeyScan.Item
import MonkeyScan.Proofs.Step

/-!
# `MonkeyScan.Proofs.Layout`: how the items of a text lie in it

`Layout` describes a scan without scanning: a text is whitespace, or it is
whitespace, something that stands at the front of the remainder, and a layout
of what comes after. A text has exactly one layout, and it is the list that
the scan makes.

* `layout_itemsFrom`: the items of a text are a layout of it.
* `Layout.itemsFrom_eq`: every layout of a text is the list of its items.
* `Layout.append_blank`: the layouts of two texts with whitespace between
  them join, unless the first text ends in an open string.
* `Layout.shift`: a layout moves with its offset.
-/

set_option autoImplicit false

namespace MonkeyScan

open Scan

/-- An item that stands `n` characters further on. -/
def Item.shift (n : Nat) (i : Item) : Item :=
  { i with start := i.start + n }

/-- The items that lie in a text starting at an offset, in order. -/
inductive Layout : Nat → Text → List Item → Prop where
  | blank {offset : Nat} {t : Text} (gap : ∀ c ∈ t, Text.isBlank c = true) :
      Layout offset t []
  | item {offset : Nat} {gap lexeme rest : Text} {outcome : Outcome} {more : List Item}
      (blank : ∀ c ∈ gap, Text.isBlank c = true)
      (front : Front (lexeme ++ rest) lexeme outcome)
      (tail : Layout (offset + gap.length + lexeme.length) rest more) :
      Layout offset (gap ++ (lexeme ++ rest))
        (⟨offset + gap.length, lexeme, outcome⟩ :: more)

/-! ### The scan makes the layout -/

/-- A text is whitespace, or something stands at the front of what comes after
the whitespace. -/
theorem blank_or_front (t : Text) :
    (∀ c ∈ t, Text.isBlank c = true) ∨
    ∃ gap lexeme rest o, t = gap ++ (lexeme ++ rest) ∧
      (∀ c ∈ gap, Text.isBlank c = true) ∧ Front (lexeme ++ rest) lexeme o := by
  cases hdrop : t.dropWhile Text.isBlank with
  | nil => exact Or.inl (List.dropWhile_eq_nil_iff.mp hdrop)
  | cons c more =>
      have ink : Text.isBlank c = false := by
        have hhead := List.head?_dropWhile_not Text.isBlank t
        rw [hdrop] at hhead
        simpa using hhead
      obtain ⟨lexeme, o, hfront⟩ := exists_front ink more
      obtain ⟨rest, hrest⟩ := hfront.isPrefix
      refine Or.inr ⟨t.takeWhile Text.isBlank, lexeme, rest, o, ?_, ?_, ?_⟩
      · rw [hrest, ← hdrop, List.takeWhile_append_dropWhile]
      · exact fun d hd => List.mem_takeWhile_imp hd
      · rw [hrest]
        exact hfront

/-- The items of a text that is whitespace. -/
theorem itemsFrom_of_blank {offset : Nat} {t : Text} (h : ∀ c ∈ t, Text.isBlank c = true) :
    itemsFrom offset t = [] := by
  rw [itemsFrom]
  split
  · rfl
  · next c rest hrest =>
      rw [List.dropWhile_eq_nil_iff.mpr h] at hrest
      exact absurd hrest.symm (List.cons_ne_nil _ _)

/-- An empty text has no items. -/
theorem itemsFrom_nil (offset : Nat) : itemsFrom offset [] = [] :=
  itemsFrom_of_blank fun _ hc => nomatch hc

/-- The items of a text with something at its front: the first is what stands
there, and the others are the items of what comes after. -/
theorem itemsFrom_of_front {offset : Nat} {gap lexeme rest : Text} {o : Outcome}
    (blank : ∀ c ∈ gap, Text.isBlank c = true) (front : Front (lexeme ++ rest) lexeme o) :
    itemsFrom offset (gap ++ (lexeme ++ rest))
      = ⟨offset + gap.length, lexeme, o⟩
        :: itemsFrom (offset + gap.length + lexeme.length) rest := by
  have hstop := front.stopsAt_blank
  have hdrop := dropWhile_run blank hstop
  rw [itemsFrom]
  split
  · next hnil =>
      obtain ⟨c, more, rfl, -⟩ := front.exists_head
      rw [hdrop] at hnil
      exact absurd hnil (List.cons_ne_nil _ _)
  · next d tail hcons =>
      rw [hdrop] at hcons
      rw [← hcons, front.step_eq, takeWhile_run blank hstop]
      show (⟨_, (lexeme ++ rest).take lexeme.length, o⟩ : Item)
          :: itemsFrom _ ((lexeme ++ rest).drop lexeme.length) = _
      rw [List.take_left, List.drop_left]

/-- The items of a text are a layout of it. -/
theorem layout_itemsFrom (offset : Nat) (t : Text) : Layout offset t (itemsFrom offset t) := by
  rcases blank_or_front t with hblank | ⟨gap, lexeme, rest, o, ht, hgap, hfront⟩
  · rw [itemsFrom_of_blank hblank]
    exact .blank hblank
  · -- What stands at the front is not empty, so less is left.
    have hshorter : rest.length < t.length := by
      obtain ⟨c, more, hlexeme, -⟩ := hfront.exists_head
      rw [ht, hlexeme]
      simp only [List.length_append, List.length_cons]
      omega
    rw [ht, itemsFrom_of_front hgap hfront]
    exact .item hgap hfront (layout_itemsFrom _ rest)
termination_by t.length

namespace Item

variable {t rest : Text} {i : Item}

/-- The characters of an item are those of the text from its start on. -/
theorem getElem?_lexeme (hdrop : t.drop i.start = i.lexeme ++ rest) {k : Nat}
    (hstart : i.start ≤ k) (hstop : k < i.stop) : i.lexeme[k - i.start]? = t[k]? := by
  have hlength : k - i.start < i.lexeme.length := by
    rw [stop] at hstop
    omega
  have hat : (i.lexeme ++ rest)[k - i.start]? = i.lexeme[k - i.start]? :=
    List.getElem?_append_left hlength
  have hk : i.start + (k - i.start) = k := by omega
  rw [← hat, ← hdrop, List.getElem?_drop, hk]

/-- The character behind an item is the first of what follows it. -/
theorem head?_rest (hdrop : t.drop i.start = i.lexeme ++ rest) : rest.head? = t[i.stop]? := by
  rw [stop, ← List.getElem?_drop, hdrop, List.getElem?_append_right (Nat.le_refl _),
    Nat.sub_self, List.head?_eq_getElem?]

end Item

namespace Layout

variable {offset : Nat} {t : Text} {found : List Item}

/-- A layout of a text is the list of its items. -/
theorem itemsFrom_eq (h : Layout offset t found) : itemsFrom offset t = found := by
  induction h with
  | blank gap => exact itemsFrom_of_blank gap
  | item blank front _ ih => rw [itemsFrom_of_front blank front, ih]

/-! ### Where the items lie -/

/-- No item starts before the text. -/
theorem le_start (h : Layout offset t found) : ∀ i ∈ found, offset ≤ i.start := by
  induction h with
  | blank => exact fun i hi => absurd hi List.not_mem_nil
  | @item offset gap lexeme rest outcome more _ _ _ ih =>
      intro i hi
      rcases List.mem_cons.mp hi with rfl | hmore
      · exact Nat.le_add_right _ _
      · have hle := ih i hmore
        omega

/-- No item stops behind the text. -/
theorem stop_le (h : Layout offset t found) : ∀ i ∈ found, i.stop ≤ offset + t.length := by
  induction h with
  | blank => exact fun i hi => absurd hi List.not_mem_nil
  | @item offset gap lexeme rest outcome more _ _ _ ih =>
      intro i hi
      rcases List.mem_cons.mp hi with rfl | hmore
      · simp only [Item.stop, List.length_append]
        omega
      · have hle := ih i hmore
        simp only [List.length_append]
        omega

/-- Each item stops before the later ones start. -/
theorem pairwise (h : Layout offset t found) : found.Pairwise fun i j => i.stop ≤ j.start := by
  induction h with
  | blank => exact .nil
  | item _ _ tail ih => exact .cons (fun j hj => tail.le_start j hj) ih

/-- Each item stands at the front of what is left of the text from its start. -/
theorem front_at (h : Layout offset t found) :
    ∀ i ∈ found, ∃ rest, t.drop (i.start - offset) = i.lexeme ++ rest ∧
      Front (i.lexeme ++ rest) i.lexeme i.outcome := by
  induction h with
  | blank => exact fun i hi => absurd hi List.not_mem_nil
  | @item offset gap lexeme rest outcome more _ front tail ih =>
      intro i hi
      rcases List.mem_cons.mp hi with rfl | hmore
      · refine ⟨rest, ?_, front⟩
        show (gap ++ (lexeme ++ rest)).drop (offset + gap.length - offset) = lexeme ++ rest
        rw [Nat.add_sub_cancel_left, List.drop_left]
      · obtain ⟨rest', hdrop, hfront⟩ := ih i hmore
        refine ⟨rest', ?_, hfront⟩
        have hle := tail.le_start i hmore
        -- Dropping up to `i` drops the gap and the first item, then the same of the tail.
        have hsplit : i.start - offset
            = (gap ++ lexeme).length + (i.start - (offset + gap.length + lexeme.length)) := by
          rw [List.length_append]
          omega
        rw [hsplit, ← List.append_assoc, List.drop_length_add_append, hdrop]

/-- No item is empty. -/
theorem start_lt_stop (h : Layout offset t found) : ∀ i ∈ found, i.start < i.stop := by
  intro i hi
  obtain ⟨rest, -, hfront⟩ := h.front_at i hi
  obtain ⟨c, more, hlexeme, -⟩ := hfront.exists_head
  rw [Item.stop, hlexeme, List.length_cons]
  omega

/-- Two items are the same, or one stops before the other starts. -/
theorem eq_or_apart (h : Layout offset t found) :
    ∀ i ∈ found, ∀ j ∈ found, i = j ∨ i.stop ≤ j.start ∨ j.stop ≤ i.start := by
  refine List.Pairwise.forall_of_forall_of_flip (fun _ _ => Or.inl rfl)
    (h.pairwise.imp ?_) (h.pairwise.imp ?_)
  · exact fun hij => Or.inr (Or.inl hij)
  · exact fun hij => Or.inr (Or.inr hij)

/-- Items start one after the other. -/
theorem starts_increase (h : Layout offset t found) :
    found.Pairwise fun i j => i.start < j.start :=
  h.pairwise.imp_of_mem fun hi _ hij => Nat.lt_of_lt_of_le (h.start_lt_stop _ hi) hij

/-- A character that is in no item is whitespace. -/
theorem isBlank_outside (h : Layout offset t found) {k : Nat} {c : Char}
    (hc : t[k]? = some c)
    (hout : ∀ i ∈ found, ¬ (i.start ≤ offset + k ∧ offset + k < i.stop)) :
    Text.isBlank c = true := by
  induction h generalizing k with
  | blank gap => exact gap c (List.mem_of_getElem? hc)
  | @item offset gap lexeme rest outcome more blank _ _ ih =>
      obtain ⟨hfirst, hmore⟩ := List.forall_mem_cons.mp hout
      simp only [Item.stop] at hfirst
      rcases Nat.lt_or_ge k gap.length with hgap | hgap
      · rw [List.getElem?_append_left hgap] at hc
        exact blank c (List.mem_of_getElem? hc)
      · -- Beyond the gap the character is behind the first item, so it is in the tail.
        rw [List.getElem?_append_right hgap, List.getElem?_append_right (by omega)] at hc
        refine ih hc fun i hi => ?_
        have hk : offset + gap.length + lexeme.length + (k - gap.length - lexeme.length)
            = offset + k := by omega
        rw [hk]
        exact hmore i hi

/-- Whitespace and the lexemes of the items, in turn, are the text. -/
theorem exists_gaps (h : Layout offset t found) :
    ∃ (gaps : List Text) (last : Text), gaps.length = found.length ∧
      (∀ gap ∈ gaps, ∀ c ∈ gap, Text.isBlank c = true) ∧
      (∀ c ∈ last, Text.isBlank c = true) ∧
      t = (gaps.zipWith (· ++ ·) (found.map Item.lexeme)).flatten ++ last := by
  induction h with
  | @blank offset t gap => exact ⟨[], t, rfl, by simp, gap, rfl⟩
  | @item offset gap lexeme rest outcome more blank _ _ ih =>
      obtain ⟨gaps, last, hlength, hgaps, hlast, hrest⟩ := ih
      refine ⟨gap :: gaps, last, ?_, List.forall_mem_cons.mpr ⟨blank, hgaps⟩, hlast, ?_⟩
      · rw [List.length_cons, List.length_cons, hlength]
      · rw [List.map_cons, List.zipWith_cons_cons, List.flatten_cons, List.append_assoc,
          List.append_assoc, ← hrest]

/-! ### Moving and joining layouts -/

/-- The same layout further on. -/
theorem shift (h : Layout offset t found) (n : Nat) :
    Layout (offset + n) t (found.map (Item.shift n)) := by
  induction h with
  | blank gap => exact .blank gap
  | @item offset gap lexeme rest outcome more blank front _ ih =>
      have hstart : offset + gap.length + n = offset + n + gap.length := by omega
      have htail : offset + gap.length + lexeme.length + n
          = offset + n + gap.length + lexeme.length := by omega
      rw [htail] at ih
      rw [List.map_cons]
      show Layout _ _ (⟨offset + gap.length + n, lexeme, outcome⟩ :: _)
      rw [hstart]
      exact .item blank front ih

/-- Whitespace in front of a text puts its layout off. -/
theorem blank_append {gap : Text} (hgap : ∀ c ∈ gap, Text.isBlank c = true)
    (h : Layout (offset + gap.length) t found) : Layout offset (gap ++ t) found := by
  cases h with
  | blank hblank => exact .blank (List.forall_mem_append.mpr ⟨hgap, hblank⟩)
  | @item _ inner lexeme rest outcome more hinner front tail =>
      rw [← List.append_assoc]
      have hstart : offset + gap.length + inner.length = offset + (gap ++ inner).length := by
        rw [List.length_append, Nat.add_assoc]
      rw [hstart] at tail ⊢
      exact .item (List.forall_mem_append.mpr ⟨hgap, hinner⟩) front tail

/-- The layouts of two texts with whitespace between them join, unless the
first text has an open string. -/
theorem append_blank {gap t' : Text} {found' : List Item} (h : Layout offset t found)
    (hclosed : ∀ i ∈ found, i.outcome ≠ .fault .unterminatedString)
    (hne : gap ≠ []) (hgap : ∀ c ∈ gap, Text.isBlank c = true)
    (h' : Layout (offset + t.length + gap.length) t' found') :
    Layout offset (t ++ (gap ++ t')) (found ++ found') := by
  induction h with
  | blank hblank =>
      rw [← List.append_assoc, List.nil_append]
      refine blank_append (List.forall_mem_append.mpr ⟨hblank, hgap⟩) ?_
      rw [List.length_append, ← Nat.add_assoc]
      exact h'
  | @item offset inner lexeme rest outcome more hinner front _ ih =>
      obtain ⟨hfirst, hmore⟩ := List.forall_mem_cons.mp hclosed
      obtain ⟨x, gap', rfl⟩ := List.exists_cons_of_ne_nil hne
      have hx := hgap x List.mem_cons_self
      have hlength : offset + inner.length + lexeme.length + rest.length
          = offset + (inner ++ (lexeme ++ rest)).length := by
        simp only [List.length_append]
        omega
      -- What follows the lexeme changes only behind whitespace, so the front stays.
      have hfront := front.append_blank hfirst hx (gap' ++ t')
      rw [List.append_assoc] at hfront
      rw [List.append_assoc, List.append_assoc]
      refine .item hinner hfront (ih hmore ?_)
      rw [hlength]
      exact h'

end Layout

/-! ### The items of a text -/

section
variable {t : Text}

/-- Each item of a text stands at the front of what is left of the text from its start. -/
theorem items_front_at {i : Item} (hi : i ∈ items t) :
    ∃ rest, t.drop i.start = i.lexeme ++ rest ∧ Front (i.lexeme ++ rest) i.lexeme i.outcome := by
  have hfront := (layout_itemsFrom 0 t).front_at i hi
  rw [Nat.sub_zero] at hfront
  exact hfront

/-- A character that is no whitespace is in an item. -/
theorem exists_item_of_ink {k : Nat} {c : Char} (hc : t[k]? = some c)
    (ink : Text.isBlank c = false) : ∃ i ∈ items t, i.start ≤ k ∧ k < i.stop := by
  by_contra hnone
  have hblank := (layout_itemsFrom 0 t).isBlank_outside hc fun i hi hin =>
    hnone ⟨i, hi, by omega, by omega⟩
  rw [ink] at hblank
  exact Bool.false_ne_true hblank

end

end MonkeyScan
