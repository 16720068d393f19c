import Mathlib.Data.List.DropRight
import MonkeyScan.Position

/-!
# `MonkeyScan.Proofs.Line`: where an offset is among the lines of a text

`LineIndex.position` finds the line of an offset by the offsets at which lines
start. Here the same place is told by counting: `Text.lineOf` is the number of
line feeds before an offset, and `Text.columnOf` the number of characters since
the last of them. Both count from zero.

* `LineIndex.position_ofText`: the index finds the place that is counted.
* `Text.getElem?_lines`: the line of that number is the line around the offset,
  `Text.lineAt`.
* `Text.lineStart_add_columnOf`: the offset is told by its line and column.
* `Text.place_lt`: places come in the order of their offsets, and on one line
  columns are as far apart as offsets.
-/

set_option autoImplicit false

namespace MonkeyScan

namespace Text

/-! ### Places in a text -/

/-- What stands behind the last line feed of a text. -/
def lastLine (t : Text) : Text :=
  t.rtakeWhile (· != '\n')

/-- The number of the line that an offset is on, from zero. -/
def lineOf (t : Text) (o : Nat) : Nat :=
  (t.take o).count '\n'

/-- The column of an offset on its line, from zero. -/
def columnOf (t : Text) (o : Nat) : Nat :=
  (lastLine (t.take o)).length

/-- The line around an offset: back to the last line feed before it, or to the
start, and on to the next, or to the end. -/
def lineAt (t : Text) (o : Nat) : Text :=
  lastLine (t.take o) ++ (t.drop o).takeWhile (· != '\n')

/-- The offset at which the line of a number starts: behind the lines before it, with
a line feed each. -/
def lineStart (t : Text) (n : Nat) : Nat :=
  (((lines t).take n).flatMap (· ++ ['\n'])).length

/-! ### The last line -/

/-- All characters of a text without line feeds go on its line. -/
theorem forall_ne_newline {t : Text} (h : '\n' ∉ t) : ∀ c ∈ t, (c != '\n') = true := by
  intro c hc
  rw [bne_iff_ne]
  exact fun heq => h (heq ▸ hc)

/-- There is no line feed on the last line. -/
theorem newline_not_mem_lastLine (t : Text) : '\n' ∉ t.lastLine := by
  intro h
  exact absurd (List.mem_rtakeWhile_imp h) (by decide)

/-- A text without line feeds is on its last line. -/
theorem lastLine_of_not_mem {t : Text} (h : '\n' ∉ t) : t.lastLine = t :=
  List.rtakeWhile_eq_self_iff.mpr (forall_ne_newline h)

/-- Characters other than line feeds go on the last line. -/
theorem lastLine_append {a b : Text} (h : '\n' ∉ b) : (a ++ b).lastLine = a.lastLine ++ b := by
  have hb : ∀ c ∈ b.reverse, (c != '\n') = true := by
    intro c hc
    exact forall_ne_newline h c (List.mem_reverse.mp hc)
  simp [lastLine, List.rtakeWhile, List.takeWhile_append_of_pos hb]

/-- A line feed starts a new line. -/
theorem lastLine_append_newline {a b : Text} (h : '\n' ∉ b) :
    (a ++ '\n' :: b).lastLine = b := by
  rw [List.append_cons, lastLine_append h, lastLine, List.rtakeWhile_concat_neg _ _ _ (by decide),
    List.nil_append]

/-- A text is its last line, or ends in its last line behind a line feed. -/
theorem lastLine_cases (t : Text) :
    ('\n' ∉ t ∧ t.lastLine = t) ∨ ∃ above, t = above ++ '\n' :: t.lastLine := by
  by_cases h : '\n' ∈ t
  · -- The last line feed is the first from the end.
    obtain ⟨behind, before, hsplit, hbehind⟩ :=
      List.eq_append_cons_of_mem (List.mem_reverse.mpr h)
    have ht : t = before.reverse ++ '\n' :: behind.reverse := by
      simpa using congrArg List.reverse hsplit
    have hlast : t.lastLine = behind.reverse := by
      rw [ht]
      exact lastLine_append_newline (by simpa using hbehind)
    exact Or.inr ⟨before.reverse, by rw [hlast]; exact ht⟩
  · exact Or.inl ⟨h, lastLine_of_not_mem h⟩

/-! ### The list of lines -/

/-- A line feed ends a line. -/
theorem lines_append_newline (a b : Text) : lines (a ++ '\n' :: b) = lines a ++ lines b :=
  List.splitOn_append_cons_self a b

/-- The first line goes up to the first line feed. -/
theorem getElem?_lines_zero (t : Text) : (lines t)[0]? = some (t.takeWhile (· != '\n')) := by
  by_cases h : '\n' ∈ t
  · obtain ⟨first, more, rfl, hfirst⟩ := List.eq_append_cons_of_mem h
    rw [lines_append_newline, lines, List.splitOn_eq_singleton hfirst,
      List.takeWhile_append_of_pos (forall_ne_newline hfirst),
      List.takeWhile_cons_of_neg (by decide), List.append_nil]
    rfl
  · rw [lines, List.splitOn_eq_singleton h, List.takeWhile_eq_self_iff.mpr (forall_ne_newline h)]
    rfl

/-- There is one line more than there are line feeds. -/
theorem length_lines (t : Text) : (lines t).length = t.count '\n' + 1 := by
  induction t with
  | nil => rfl
  | cons c rest ih =>
      rw [lines, List.splitOn_cons_eq_if_modifyHead]
      rw [lines] at ih
      by_cases hc : c = '\n'
      · subst hc
        simp [ih]
      · simp [hc, ih]

/-- The lines with a line feed each are the text with one more. -/
theorem flatMap_lines (t : Text) : (lines t).flatMap (· ++ ['\n']) = t ++ ['\n'] := by
  induction t with
  | nil => rfl
  | cons c rest ih =>
      rw [lines] at ih
      obtain ⟨first, more, hrest⟩ := List.exists_cons_of_ne_nil (List.splitOn_ne_nil '\n' rest)
      rw [hrest] at ih
      rw [lines, List.splitOn_cons_eq_if_modifyHead, hrest, List.cons_append, ← ih]
      by_cases hc : c = '\n'
      · rw [if_pos (beq_iff_eq.mpr hc), hc]
        rfl
      · rw [if_neg (by rwa [beq_iff_eq])]
        rfl

section
variable {t : Text} {o : Nat}

/-- The lines above an offset, which make up the text before its line, come in
front of the lines from there on. -/
theorem exists_lines_above (t : Text) (o : Nat) :
    ∃ above : List Text, lines t = above ++ lines (lastLine (t.take o) ++ t.drop o) ∧
      above.length = t.lineOf o ∧
      above.flatMap (· ++ ['\n']) ++ lastLine (t.take o) = t.take o := by
  rw [lineOf]
  rcases lastLine_cases (t.take o) with ⟨hnone, hlast⟩ | ⟨before, hbefore⟩
  · refine ⟨[], ?_, ?_, ?_⟩
    · rw [hlast, List.take_append_drop, List.nil_append]
    · rw [List.count_eq_zero.mpr hnone, List.length_nil]
    · rw [hlast, List.flatMap_nil, List.nil_append]
  · have hlast := newline_not_mem_lastLine (t.take o)
    generalize lastLine (t.take o) = last at hbefore hlast ⊢
    refine ⟨lines before, ?_, ?_, ?_⟩
    · conv => lhs; rw [← List.take_append_drop o t]
      rw [hbefore, List.append_assoc, List.cons_append, lines_append_newline]
    · rw [hbefore, length_lines, List.count_append, List.count_cons_self,
        List.count_eq_zero.mpr hlast]
    · rw [hbefore, flatMap_lines, List.append_assoc]
      rfl

/-- The line of the number that is counted is the line around the offset. -/
theorem getElem?_lines (t : Text) (o : Nat) : (lines t)[t.lineOf o]? = some (t.lineAt o) := by
  obtain ⟨above, hlines, habove, -⟩ := t.exists_lines_above o
  rw [hlines, ← habove, List.getElem?_append_right (Nat.le_refl _), Nat.sub_self,
    getElem?_lines_zero, lineAt,
    List.takeWhile_append_of_pos (forall_ne_newline (newline_not_mem_lastLine _))]

/-- An offset is as far into the text as its column is behind the start of its
line. -/
theorem lineStart_add_columnOf (h : o ≤ t.length) :
    t.lineStart (t.lineOf o) + t.columnOf o = o := by
  obtain ⟨above, hlines, habove, htake⟩ := t.exists_lines_above o
  rw [lineStart, hlines, ← habove, List.take_left, columnOf, ← List.length_append, htake,
    List.length_take_of_le h]

/-- Of two offsets the later is on a later line, or on the same line and further
on by their distance. -/
theorem place_lt {p : Nat} (h : o ≤ p) (hp : p ≤ t.length) :
    t.lineOf o < t.lineOf p ∨
      (t.lineOf p = t.lineOf o ∧ t.columnOf p = t.columnOf o + (p - o)) := by
  have hsplit : t.take p = t.take o ++ (t.drop o).take (p - o) := by
    have hadd := List.take_add (l := t) (i := o) (j := p - o)
    rw [Nat.add_sub_cancel' h] at hadd
    exact hadd
  have hlength : ((t.drop o).take (p - o)).length = p - o := by
    rw [List.length_take, List.length_drop]
    omega
  rw [lineOf, lineOf, columnOf, columnOf, hsplit]
  generalize (t.drop o).take (p - o) = between at hlength ⊢
  by_cases hnew : '\n' ∈ between
  · have hpos := List.count_pos_iff.mpr hnew
    rw [List.count_append]
    omega
  · rw [List.count_append, List.count_eq_zero.mpr hnew, lastLine_append hnew,
      List.length_append, hlength]
    exact Or.inr ⟨rfl, rfl⟩

end

end Text

/-! ### The line index -/

namespace LineIndex

/-- Line starts of a text in two parts. -/
theorem startsAfter_append (k : Nat) (a b : Text) :
    startsAfter k (a ++ b) = startsAfter k a ++ startsAfter (k + a.length) b := by
  induction a generalizing k with
  | nil => rfl
  | cons c rest ih =>
      have hlength : k + 1 + rest.length = k + (c :: rest).length := by
        rw [List.length_cons]
        omega
      by_cases hc : c = '\n' <;> simp [startsAfter, hc, ih, hlength]

/-- A line starts behind its line feed. -/
theorem mem_startsAfter {k : Nat} {t : Text} :
    ∀ s ∈ startsAfter k t, k < s ∧ s ≤ k + t.length := by
  induction t generalizing k with
  | nil => exact fun _ hs => absurd hs List.not_mem_nil
  | cons c rest ih =>
      intro s hs
      by_cases hc : c = '\n'
      · rw [startsAfter, if_pos hc, List.mem_cons] at hs
        rcases hs with rfl | hs
        · simp
        · have hle := ih s hs
          rw [List.length_cons]
          omega
      · rw [startsAfter, if_neg hc] at hs
        have hle := ih s hs
        rw [List.length_cons]
        omega

/-- There are as many later starts as line feeds. -/
theorem length_startsAfter (k : Nat) (t : Text) :
    (startsAfter k t).length = t.count '\n' := by
  induction t generalizing k with
  | nil => rfl
  | cons c rest ih => by_cases hc : c = '\n' <;> simp [startsAfter, hc, ih]

/-- The last of the lines of a text starts where its last line does. -/
theorem getLast?_starts (t : Text) :
    (0 :: startsAfter 0 t).getLast? = some (t.length - t.lastLine.length) := by
  rcases t.lastLine_cases with ⟨hnone, hlast⟩ | ⟨above, habove⟩
  · have hnil : startsAfter 0 t = [] := by
      rw [← List.length_eq_zero_iff, length_startsAfter, List.count_eq_zero.mpr hnone]
    rw [hnil, hlast, Nat.sub_self]
    rfl
  · have hlast := t.newline_not_mem_lastLine
    generalize t.lastLine = last at habove hlast ⊢
    have hnil : ∀ k, startsAfter k last = [] := by
      intro k
      rw [← List.length_eq_zero_iff, length_startsAfter, List.count_eq_zero.mpr hlast]
    have hlength : t.length - last.length = above.length + 1 := by
      rw [habove, List.length_append, List.length_cons]
      omega
    rw [hlength, habove, startsAfter_append, startsAfter, if_pos rfl, hnil, Nat.zero_add,
      ← List.cons_append, List.getLast?_concat]

/-- The index of a text finds the place of an offset that is in the text or at
its end. -/
theorem position_ofText {t : Text} {o : Nat} (h : o ≤ t.length) :
    (ofText t).position o = ⟨t.lineOf o + 1, t.columnOf o + 1, o⟩ := by
  have hlength : (t.take o).length = o := List.length_take_of_le h
  -- The starts up to the offset are those of the text before it.
  have hbefore : (ofText t).starts.takeWhile (fun (s : Nat) => decide ((s : Int) ≤ o))
      = 0 :: startsAfter 0 (t.take o) := by
    have hstarts : (ofText t).starts
        = (0 :: startsAfter 0 (t.take o)) ++ startsAfter o (t.drop o) := by
      show 0 :: startsAfter 0 t = _
      conv => lhs; rw [← List.take_append_drop o t]
      rw [startsAfter_append, hlength, Nat.zero_add, List.cons_append]
    have hup : ∀ s ∈ 0 :: startsAfter 0 (t.take o), decide ((s : Int) ≤ o) = true := by
      intro s hs
      rw [decide_eq_true_eq]
      rcases List.mem_cons.mp hs with rfl | hs
      · exact Int.natCast_nonneg o
      · have hle := (mem_startsAfter s hs).2
        rw [hlength] at hle
        omega
    have hbeyond : (startsAfter o (t.drop o)).takeWhile (fun (s : Nat) => decide ((s : Int) ≤ o))
        = [] := by
      cases hrest : startsAfter o (t.drop o) with
      | nil => rfl
      | cons s more =>
          have hlt := (mem_startsAfter s (hrest ▸ List.mem_cons_self)).1
          exact List.takeWhile_cons_of_neg (by simp only [decide_eq_true_eq]; omega)
    rw [hstarts, List.takeWhile_append_of_pos hup, hbeyond, List.append_nil]
  have hlast : (Text.lastLine (t.take o)).length ≤ o := by
    have hle := (List.rtakeWhile_suffix (· != '\n') (t.take o)).length_le
    rwa [hlength] at hle
  simp only [position, hbefore, getLast?_starts, Option.getD_some, hlength, List.length_cons,
    length_startsAfter]
  have hcolumn : (o : Int) - (o - (Text.lastLine (t.take o)).length : Nat) + 1
      = (Text.lastLine (t.take o)).length + 1 := by omega
  rw [hcolumn]
  rfl

end LineIndex

end MonkeyScan
