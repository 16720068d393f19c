import MonkeyScan.Proofs.Line
import MonkeyScan.Proofs.Lists

/-!
# `MonkeyScan.Proofs.LineIndex`: offsets and places tell each other

A place is a line and a column. The line index gives every offset a place by looking
for the last line that starts at or before it. `LineIndex.search` looks for it the way
an ordered table is searched, by halving; the starts are in ascending order, so it
finds the same line.

Offsets up to the end of a text and the places in it are in bijection, and the
bijection keeps the order: `PlacesOffsets` says so from both sides. An offset is
counted into a place by the line feeds before it and the characters since the last of
them, and a place gives its offset back as the start of its line and the column.

* `LineIndex.search_eq`: halving finds as many starts as there are up to an offset.
* `LineIndex.position_natCast`: the position of any offset, also past the end.
* `LineIndex.position_lineStart_add`: each place in a text is that of one offset.
* `LineIndex.placesOffsets`: the correspondence.
-/

set_option autoImplicit false

namespace MonkeyScan

/-- Whether a position is on an earlier line than another, or on its line and in an
earlier column. -/
def Position.Precedes (p q : Position) : Prop :=
  p.line < q.line ∨ (p.line = q.line ∧ p.column < q.column)

/-- The offset just behind the last line feed before an offset, or zero where there is
none before it. -/
def Text.startBefore (t : Text) (o : Nat) : Nat :=
  ((t.take o).idxsOf '\n').getLast?.elim 0 (· + 1)

namespace LineIndex

/-- The number of starts up to an offset, which lies between `low` and `high`: the
start in the middle tells in which half. -/
def search (starts : List Nat) (offset : Int) (low high : Nat) : Nat :=
  if low < high then
    let middle := (low + high) / 2
    if offset < (starts[middle]?.getD 0 : Nat) then search starts offset low middle
    else search starts offset (middle + 1) high
  else low
termination_by high - low

/-- What the line index of a text says of offsets and places. -/
structure PlacesOffsets (t : Text) : Prop where
  /-- The line is told by the line feeds before an offset, and the column by the last of
  them. -/
  counted : ∀ o : Nat, (ofText t).position o
    = ⟨(t.take o).count '\n' + 1, o - t.startBefore o + 1, o⟩
  /-- The line is the one that halving finds. -/
  searched : ∀ o : Int, ((ofText t).position o).line
    = search (ofText t).starts o 0 (ofText t).starts.length
  /-- A later offset has a later place. -/
  increasing : ∀ o p : Nat, o < p → p ≤ t.length →
    ((ofText t).position o).Precedes ((ofText t).position p)
  /-- No two offsets have one place. -/
  injective : ∀ o p : Nat, o ≤ t.length → p ≤ t.length →
    ((ofText t).position o).line = ((ofText t).position p).line →
    ((ofText t).position o).column = ((ofText t).position p).column → o = p
  /-- A column is one of its line, or the one behind the line. -/
  withinLine : ∀ o : Nat, o ≤ t.length →
    ∃ line, (Text.lines t)[((ofText t).position o).line.toNat - 1]? = some line ∧
      1 ≤ ((ofText t).position o).column ∧
      ((ofText t).position o).column ≤ line.length + 1
  /-- An offset is as far behind the start of its line as its column tells. -/
  recovered : ∀ o : Nat, o ≤ t.length →
    (t.lineStart (((ofText t).position o).line.toNat - 1) : Int)
      + ((ofText t).position o).column - 1 = o
  /-- Each column of each line, and the one behind it, is that of an offset. -/
  surjective : ∀ (n : Nat) (line : Text), (Text.lines t)[n]? = some line → ∀ k ≤ line.length,
    ∃ o ≤ t.length, (ofText t).position o = ⟨n + 1, k + 1, o⟩
  /-- Past the end is the last line. -/
  beyond : ∀ o : Nat, t.length < o →
    ((ofText t).position o).line = (Text.lines t).length

/-! ### Searching by halving -/

section
variable {starts : List Nat} {offset : Int}

/-- In an ascending list the starts beyond an offset are those behind the starts up to
it. -/
theorem lt_getElem?_iff (hsorted : starts.Pairwise (· < ·)) {m : Nat}
    (hm : m < starts.length) :
    offset < (starts[m]?.getD 0 : Nat)
      ↔ (starts.takeWhile fun (s : Nat) => decide ((s : Int) ≤ offset)).length ≤ m := by
  induction starts generalizing m with
  | nil => exact absurd hm (Nat.not_lt_zero m)
  | cons s more ih =>
      obtain ⟨hfirst, hmore⟩ := List.pairwise_cons.mp hsorted
      by_cases hs : (s : Int) ≤ offset
      · rw [List.takeWhile_cons_of_pos (by simpa using hs)]
        cases m with
        | zero => simpa using hs
        | succ m => simpa using ih hmore (Nat.lt_of_succ_lt_succ hm)
      · -- The first start is beyond the offset already, and the others are larger.
        rw [List.takeWhile_cons_of_neg (by simpa using hs)]
        cases m with
        | zero => simpa using hs
        | succ m =>
            have hm' : m < more.length := Nat.lt_of_succ_lt_succ hm
            have hlt := hfirst more[m] (List.getElem_mem hm')
            simp only [List.getElem?_cons_succ, List.length_nil, Nat.zero_le, iff_true,
              List.getElem?_eq_getElem hm', Option.getD_some]
            omega

/-- Halving an interval that holds the number of starts up to an offset ends at that
number. -/
theorem search_eq_of_mem (hsorted : starts.Pairwise (· < ·)) {low high : Nat}
    (hlow : low ≤ (starts.takeWhile fun (s : Nat) => decide ((s : Int) ≤ offset)).length)
    (hhigh : (starts.takeWhile fun (s : Nat) => decide ((s : Int) ≤ offset)).length ≤ high)
    (hlength : high ≤ starts.length) :
    search starts offset low high
      = (starts.takeWhile fun (s : Nat) => decide ((s : Int) ≤ offset)).length := by
  fun_induction search starts offset low high with
  | case1 low high hlt middle hbeyond ih =>
      have hmiddle : middle < starts.length := by omega
      exact ih hlow ((lt_getElem?_iff hsorted hmiddle).mp hbeyond) (by omega)
  | case2 low high hlt middle hupto ih =>
      have hmiddle : middle < starts.length := by omega
      rw [lt_getElem?_iff hsorted hmiddle] at hupto
      exact ih (by omega) hhigh hlength
  | case3 low high hend => omega

/-- Halving finds the number of starts up to an offset. -/
theorem search_eq (hsorted : starts.Pairwise (· < ·)) (offset : Int) :
    search starts offset 0 starts.length
      = (starts.takeWhile fun (s : Nat) => decide ((s : Int) ≤ offset)).length :=
  search_eq_of_mem hsorted (Nat.zero_le _) (List.takeWhile_sublist _).length_le
    (Nat.le_refl _)

end

/-- The lines of a text start one after the other. -/
theorem pairwise_startsAfter (k : Nat) (t : Text) : (startsAfter k t).Pairwise (· < ·) := by
  induction t generalizing k with
  | nil => exact .nil
  | cons c rest ih =>
      by_cases hc : c = '\n'
      · rw [startsAfter, if_pos hc]
        exact .cons (fun s hs => (mem_startsAfter s hs).1) (ih _)
      · rw [startsAfter, if_neg hc]
        exact ih _

/-- So do all of them with the first. -/
theorem pairwise_starts (t : Text) : (ofText t).starts.Pairwise (· < ·) :=
  .cons (fun s hs => (mem_startsAfter s hs).1) (pairwise_startsAfter 0 t)

/-! ### Places of offsets -/

section
variable {t : Text} {o : Nat}

/-- A text goes on from its last line feed with its last line. -/
theorem startBefore_add_columnOf (t : Text) (o : Nat) :
    t.startBefore o + t.columnOf o = (t.take o).length := by
  rw [Text.startBefore, Text.columnOf]
  rcases Text.lastLine_cases (t.take o) with ⟨hnone, hlast⟩ | ⟨above, habove⟩
  · rw [hlast, idxsOf_eq_nil_of_not_mem hnone]
    simp
  · have hlast := Text.newline_not_mem_lastLine (t.take o)
    generalize Text.lastLine (t.take o) = last at habove hlast ⊢
    rw [habove, List.idxsOf_append, List.idxsOf_cons, if_pos (by decide),
      idxsOf_eq_nil_of_not_mem hlast]
    simp
    omega

/-- The position of an offset past the end is on the last line. -/
theorem position_of_length_le (h : t.length ≤ o) :
    (ofText t).position o
      = ⟨t.count '\n' + 1, o - (t.length - t.lastLine.length : Nat) + 1, o⟩ := by
  have hall : (ofText t).starts.takeWhile (fun (s : Nat) => decide ((s : Int) ≤ o))
      = 0 :: startsAfter 0 t := by
    refine List.takeWhile_eq_self_iff.mpr fun s hs => ?_
    rw [decide_eq_true_eq]
    rcases List.mem_cons.mp hs with rfl | hs
    · exact Int.natCast_nonneg o
    · have hle := (mem_startsAfter s hs).2
      omega
  simp only [position, hall, getLast?_starts, Option.getD_some, List.length_cons,
    length_startsAfter]
  rfl

/-- The position of any offset: line feeds before it are counted, and so are the
characters since the last of them. -/
theorem position_natCast (t : Text) (o : Nat) :
    (ofText t).position o = ⟨(t.take o).count '\n' + 1, o - t.startBefore o + 1, o⟩ := by
  have hstart := startBefore_add_columnOf t o
  -- Past the end all of the text is counted, and the column goes on.
  rcases Nat.le_total o t.length with hle | hge
  · rw [List.length_take_of_le hle] at hstart
    rw [position_ofText hle, Text.lineOf]
    simp only [Position.mk.injEq, true_and, and_true]
    omega
  · rw [Text.columnOf, List.take_of_length_le hge] at hstart
    rw [position_of_length_le hge, List.take_of_length_le hge]
    simp only [Position.mk.injEq, true_and, and_true]
    omega

/-- Later offsets in a text have later positions. -/
theorem position_precedes {p : Nat} (h : o < p) (hp : p ≤ t.length) :
    ((ofText t).position o).Precedes ((ofText t).position p) := by
  rw [position_ofText (Nat.le_of_lt (Nat.lt_of_lt_of_le h hp)), position_ofText hp,
    Position.Precedes]
  have hplace := Text.place_lt (Nat.le_of_lt h) hp
  simp only
  omega

end

/-! ### Offsets of places -/

section
variable {t : Text}

/-- Lines hold no line feed. -/
theorem newline_not_mem_of_mem_lines {line : Text} (h : line ∈ Text.lines t) : '\n' ∉ line := by
  induction t generalizing line with
  | nil =>
      rw [List.mem_singleton.mp h]
      exact List.not_mem_nil
  | cons c rest ih =>
      rw [Text.lines] at ih
      rw [Text.lines, List.splitOn_cons_eq_if_modifyHead] at h
      obtain ⟨first, more, hrest⟩ := List.exists_cons_of_ne_nil (List.splitOn_ne_nil '\n' rest)
      rw [hrest] at ih h
      obtain ⟨hfirst, hmore⟩ := List.forall_mem_cons.mp @ih
      by_cases hc : c = '\n'
      · rw [if_pos (beq_iff_eq.mpr hc)] at h
        rcases List.mem_cons.mp h with rfl | h
        · exact List.not_mem_nil
        · exact ih h
      · rw [if_neg (by rwa [beq_iff_eq]), List.modifyHead_cons] at h
        rcases List.mem_cons.mp h with rfl | h
        · exact List.not_mem_cons_of_ne_of_not_mem (Ne.symm hc) hfirst
        · exact hmore _ h

/-- Lines with a line feed each have as many line feeds as there are lines. -/
theorem count_flatMap_lines {above : List Text} (h : ∀ line ∈ above, '\n' ∉ line) :
    (above.flatMap (· ++ ['\n'])).count '\n' = above.length := by
  induction above with
  | nil => rfl
  | cons line more ih =>
      obtain ⟨hline, hmore⟩ := List.forall_mem_cons.mp h
      rw [List.flatMap_cons, List.count_append, ih hmore, List.count_append,
        List.count_eq_zero.mpr hline, List.length_cons, List.count_singleton_self]
      omega

/-- An offset as far behind the start of a line as the line is long, at most, is on that
line. -/
theorem lineOf_lineStart_add {n k : Nat} {line : Text} (hline : (Text.lines t)[n]? = some line)
    (hk : k ≤ line.length) :
    t.lineStart n + k ≤ t.length ∧ t.lineOf (t.lineStart n + k) = n := by
  obtain ⟨hn, hget⟩ := List.getElem?_eq_some_iff.mp hline
  have hlines : Text.lines t
      = (Text.lines t).take n ++ line :: (Text.lines t).drop (n + 1) := by
    rw [← hget, ← List.drop_eq_getElem_cons hn, List.take_append_drop]
  have hcount := count_flatMap_lines fun l (hl : l ∈ (Text.lines t).take n) =>
    newline_not_mem_of_mem_lines (List.take_subset _ _ hl)
  rw [List.length_take_of_le (Nat.le_of_lt hn)] at hcount
  -- The lines above, the line, and what follows make up the text and one line feed.
  have htext := t.flatMap_lines
  rw [hlines, List.flatMap_append, List.flatMap_cons] at htext
  rw [Text.lineStart, Text.lineOf]
  generalize ((Text.lines t).take n).flatMap (· ++ ['\n']) = above at hcount htext ⊢
  generalize ((Text.lines t).drop (n + 1)).flatMap (· ++ ['\n']) = below at htext
  have hlength := congrArg List.length htext
  simp only [List.length_append, List.length_singleton] at hlength
  have hle : above.length + k ≤ t.length := by omega
  have htake : t.take (above.length + k) = above ++ line.take k := by
    have hshort : (t ++ ['\n']).take (above.length + k) = t.take (above.length + k) :=
      List.take_append_of_le_length hle
    rw [← hshort, ← htext, List.take_length_add_append, List.append_assoc,
      List.take_append_of_le_length hk]
  have hbetween : '\n' ∉ line.take k := fun h =>
    newline_not_mem_of_mem_lines (List.mem_of_getElem? hline) (List.take_subset _ _ h)
  refine ⟨hle, ?_⟩
  rw [htake, List.count_append, hcount, List.count_eq_zero.mpr hbetween, Nat.add_zero]

/-- Each column of a line, and the one behind it, is that of the offset as far behind
the start of the line. -/
theorem position_lineStart_add {n k : Nat} {line : Text} (hline : (Text.lines t)[n]? = some line)
    (hk : k ≤ line.length) :
    (ofText t).position (t.lineStart n + k : Nat)
      = ⟨n + 1, k + 1, (t.lineStart n + k : Nat)⟩ := by
  obtain ⟨hle, hlineOf⟩ := lineOf_lineStart_add hline hk
  have hcolumn := Text.lineStart_add_columnOf hle
  rw [hlineOf] at hcolumn
  rw [position_ofText hle, hlineOf, Nat.add_left_cancel hcolumn]

/-- The line index of a text puts offsets and places in correspondence. -/
theorem placesOffsets (t : Text) : PlacesOffsets t := by
  constructor
  case counted => exact position_natCast t
  case searched =>
    intro o
    rw [search_eq (pairwise_starts t)]
    rfl
  case increasing => exact fun o p h hp => position_precedes h hp
  case injective =>
    intro o p ho hp hline hcolumn
    -- One of two offsets would be the later one and have the later place.
    rcases Nat.lt_trichotomy o p with h | h | h
    · have hprecedes := position_precedes h hp
      rw [Position.Precedes] at hprecedes
      omega
    · exact h
    · have hprecedes := position_precedes h ho
      rw [Position.Precedes] at hprecedes
      omega
  case withinLine =>
    intro o ho
    refine ⟨t.lineAt o, ?_, ?_⟩
    · rw [position_ofText ho]
      exact t.getElem?_lines o
    · have hle : t.columnOf o ≤ (t.lineAt o).length := by
        rw [Text.lineAt, List.length_append]
        exact Nat.le_add_right _ _
      rw [position_ofText ho]
      simp only
      omega
  case recovered =>
    intro o ho
    have hcolumn := Text.lineStart_add_columnOf ho
    rw [position_ofText ho]
    simp only [Int.toNat_natCast_add_one, Nat.add_sub_cancel]
    omega
  case surjective =>
    intro n line hline k hk
    exact ⟨_, (lineOf_lineStart_add hline hk).1, position_lineStart_add hline hk⟩
  case beyond =>
    intro o ho
    rw [position_natCast, List.take_of_length_le (Nat.le_of_lt ho), Text.length_lines]
    rfl

end

end LineIndex

end MonkeyScan
