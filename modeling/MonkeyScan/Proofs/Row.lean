import MonkeyScan.Proofs.Consumption
import MonkeyScan.Proofs.Line

/-!
# `MonkeyScan.Proofs.Row`: the row that a report shows

A report takes the number of a line, which counts line feeds, and shows the row of
that number, where rows end at other breaks too. The line that the position of an
error is on is `ScanError.line`. The row is that line as long as the two counts
agree: where above the line rows end at line feeds only, bare or behind a carriage
return, and where no row ends within the line.

Otherwise the report shows another row, and a form feed in a string some lines above
is enough for that.

* `Text.rows_append`: rows above a line are counted by line feeds.
* `Text.getElem?_rows`: so the row of the number of a line starts where the line
  does, and it is the line without carriage returns at its end.
* `Text.getElem?_columnOf`: a line has in the column of an offset what stands there.
* `Cursor.Sound.error_at`: an error stands at the offset that it names.
* `Cursor.Reached.reportRows_line`: the report of an error shows the line of its
  position.
-/

set_option autoImplicit false

namespace MonkeyScan

open Scan

namespace Text

/-- The text above the line of an offset. -/
def aboveLine (t : Text) (o : Nat) : Text :=
  (t.take o).rdropWhile (· != '\n')

/-- Whether all rows end at line feeds, bare or behind a carriage return. -/
def plainBreaks : Text → Bool
  | [] => true
  | '\r' :: '\n' :: rest => plainBreaks rest
  | c :: rest => (c == '\n' || !isRowBreak c) && plainBreaks rest

/-! ### Characters at the end -/

/-- Nothing is dropped where there is nothing to drop. -/
theorem dropTrailing_of_not_mem {c : Char} {t : Text} (h : c ∉ t) : dropTrailing c t = t := by
  refine List.rdropWhile_eq_self_iff.mpr ?_
  intro hne heq
  exact h (beq_iff_eq.mp heq ▸ List.getLast_mem hne)

/-- One character more at the end is dropped like the others. -/
theorem dropTrailing_concat (c : Char) (t : Text) :
    dropTrailing c (t ++ [c]) = dropTrailing c t :=
  List.rdropWhile_concat_pos _ _ _ (beq_self_eq_true c)

/-- What is dropped consists of the one character. -/
theorem exists_dropTrailing (c : Char) (t : Text) :
    ∃ dropped, t = dropTrailing c t ++ dropped ∧ ∀ d ∈ dropped, d = c := by
  refine ⟨t.rtakeWhile (· == c), List.rdropWhile_append_rtakeWhile.symm, ?_⟩
  intro d hd
  simpa using List.mem_rtakeWhile_imp hd

/-- The endings that rows without other breaks have. -/
def endings : List Text :=
  [[], ['\n'], ['\r'], ['\r', '\n']]

/-- The ending of a row is stripped. -/
theorem stripEnding_append {body ending : Text} (hbody : ∀ c ∈ body, isRowBreak c = false)
    (hending : ending ∈ endings) : stripEnding (body ++ ending) = body := by
  have hfeed : '\n' ∉ body := fun h => absurd (hbody _ h) (by decide)
  have hreturn : '\r' ∉ body := fun h => absurd (hbody _ h) (by decide)
  have hboth : '\n' ∉ body ++ ['\r'] := by simp [hfeed]
  simp only [endings, List.mem_cons, List.not_mem_nil, or_false] at hending
  rcases hending with rfl | rfl | rfl | rfl
  · rw [List.append_nil, stripEnding, dropTrailing_of_not_mem hfeed,
      dropTrailing_of_not_mem hreturn]
  · rw [stripEnding, dropTrailing_concat, dropTrailing_of_not_mem hfeed,
      dropTrailing_of_not_mem hreturn]
  · rw [stripEnding, dropTrailing_of_not_mem hboth, dropTrailing_concat,
      dropTrailing_of_not_mem hreturn]
  · rw [List.append_cons, stripEnding, dropTrailing_concat, dropTrailing_of_not_mem hboth,
      dropTrailing_concat, dropTrailing_of_not_mem hreturn]

/-! ### Rows -/

/-- A character that is no break is part of the first row. -/
theorem rows_cons {c : Char} (h : isRowBreak c = false) (rest : Text) :
    rows (c :: rest) = consRow c (rows rest) := by
  have hne : c ≠ '\r' := by
    rintro rfl
    exact absurd h (by decide)
  simp [rows, hne, h]

/-- Characters that are no breaks are part of the first row. -/
theorem firstRow_append {body : Text} (hbody : ∀ c ∈ body, isRowBreak c = false) (rest : Text) :
    (rows (body ++ rest))[0]?.getD [] = body ++ (rows rest)[0]?.getD [] := by
  induction body with
  | nil => rfl
  | cons c more ih =>
      obtain ⟨hc, hmore⟩ := List.forall_mem_cons.mp hbody
      rw [List.cons_append, rows_cons hc, List.cons_append, ← ih hmore]
      cases rows (more ++ rest) <;> rfl

/-- Carriage returns before a line feed, or at the end of the text, leave a row of
at most one of them with at most the line feed. -/
theorem firstRow_mem_endings {returns rest : Text} (hreturns : ∀ c ∈ returns, c = '\r')
    (hrest : rest = [] ∨ ∃ more, rest = '\n' :: more) :
    (rows (returns ++ rest))[0]?.getD [] ∈ endings := by
  cases returns with
  | nil =>
      rcases hrest with rfl | ⟨more, rfl⟩
      · decide
      · simp [rows, isRowBreak, endings]
  | cons r others =>
      obtain ⟨rfl, hothers⟩ := List.forall_mem_cons.mp hreturns
      cases others with
      | nil =>
          rcases hrest with rfl | ⟨more, rfl⟩
          · decide
          · simp [rows, endings]
      | cons r' others =>
          obtain ⟨rfl, -⟩ := List.forall_mem_cons.mp hothers
          simp [rows, isRowBreak, endings]

/-- There is a row where there is a character. -/
theorem rows_ne_nil {t : Text} (h : t ≠ []) : rows t ≠ [] := by
  fun_cases rows t with
  | case1 => exact absurd rfl h
  | case2 => exact List.cons_ne_nil _ _
  | case3 => exact List.cons_ne_nil _ _
  | case4 c rest => cases rows rest <;> exact List.cons_ne_nil _ _

/-- Where rows end at line feeds only, the rows of a text that ends in one are counted
by them, and further rows come behind. -/
theorem rows_append {above : Text} (hplain : plainBreaks above = true)
    (hend : above.getLast?.getD '\n' = '\n') (rest : Text) :
    rows (above ++ rest) = rows above ++ rows rest ∧
      (rows above).length = above.count '\n' := by
  fun_induction plainBreaks above with
  | case1 => exact ⟨rfl, rfl⟩
  | case2 more ih =>
      obtain ⟨hrows, hlength⟩ := ih hplain (by simpa [List.getLast?_cons] using hend)
      simp [rows, hrows, hlength]
  | case3 c more _ ih =>
      rw [Bool.and_eq_true, Bool.or_eq_true, beq_iff_eq, Bool.not_eq_true'] at hplain
      obtain ⟨hc, hmore⟩ := hplain
      rcases hc with rfl | hc
      · obtain ⟨hrows, hlength⟩ := ih hmore (by simpa [List.getLast?_cons] using hend)
        simp [rows, isRowBreak, hrows, hlength]
      · have hfeed : c ≠ '\n' := by
          rintro rfl
          exact absurd hc (by decide)
        -- The text goes on behind the character, since it ends in a line feed.
        have hne : more ≠ [] := by
          rintro rfl
          exact hfeed hend
        obtain ⟨hrows, hlength⟩ := ih hmore (by
          obtain ⟨d, others, rfl⟩ := List.exists_cons_of_ne_nil hne
          simpa [List.getLast?_cons] using hend)
        obtain ⟨row, others, hfirst⟩ := List.exists_cons_of_ne_nil (rows_ne_nil hne)
        rw [hfirst] at hrows hlength
        rw [List.cons_append, rows_cons hc, rows_cons hc, hrows, hfirst,
          List.count_cons_of_ne hfeed, ← hlength]
        exact ⟨rfl, rfl⟩

/-! ### The row of a line -/

/-- A line is followed by a line feed or by nothing. -/
theorem dropWhile_ne_newline (t : Text) :
    t.dropWhile (· != '\n') = [] ∨ ∃ more, t.dropWhile (· != '\n') = '\n' :: more := by
  have hhead := List.head?_dropWhile_not (· != '\n') t
  cases h : t.dropWhile (· != '\n') with
  | nil => exact Or.inl rfl
  | cons c more =>
      rw [h] at hhead
      exact Or.inr ⟨more, by rw [bne_eq_false_iff_eq.mp hhead]⟩

section
variable (t : Text) (o : Nat)

/-- What is before an offset is what is above its line, and the line up to it. -/
theorem aboveLine_append_lastLine : t.aboveLine o ++ lastLine (t.take o) = t.take o :=
  List.rdropWhile_append_rtakeWhile

/-- A text is what is above the line of an offset, the line, and what follows. -/
theorem aboveLine_append :
    t.aboveLine o ++ (t.lineAt o ++ (t.drop o).dropWhile (· != '\n')) = t := by
  rw [lineAt, List.append_assoc, List.takeWhile_append_dropWhile, ← List.append_assoc,
    aboveLine_append_lastLine, List.take_append_drop]

/-- Above a line there is nothing, or a text that ends in a line feed. -/
theorem getLast?_aboveLine : (t.aboveLine o).getLast?.getD '\n' = '\n' := by
  by_cases h : t.aboveLine o = []
  · rw [h]
    rfl
  · have hlast := List.rdropWhile_last_not (· != '\n') (t.take o) h
    rw [List.getLast?_eq_some_getLast h, Option.getD_some]
    exact of_not_not fun hne => hlast (bne_iff_ne.mpr hne)

/-- The line feeds before an offset are above its line. -/
theorem count_aboveLine : (t.aboveLine o).count '\n' = t.lineOf o := by
  rw [lineOf, ← aboveLine_append_lastLine, List.count_append,
    List.count_eq_zero.mpr (newline_not_mem_lastLine _), Nat.add_zero]

variable {t o}

/-- The row of the number of a line is the line, without the carriage returns at its
end. -/
theorem getElem?_rows (habove : plainBreaks (t.aboveLine o) = true)
    (hline : ∀ c ∈ dropTrailing '\r' (t.lineAt o), isRowBreak c = false) :
    stripEnding ((rows t)[t.lineOf o]?.getD []) = dropTrailing '\r' (t.lineAt o) := by
  obtain ⟨returns, hreturns, hall⟩ := exists_dropTrailing '\r' (t.lineAt o)
  have hsplit := t.aboveLine_append o
  rw [hreturns, List.append_assoc] at hsplit
  obtain ⟨hrows, hlength⟩ := rows_append habove (t.getLast?_aboveLine o)
    (dropTrailing '\r' (t.lineAt o) ++ (returns ++ (t.drop o).dropWhile (· != '\n')))
  rw [hsplit] at hrows
  rw [count_aboveLine] at hlength
  rw [hrows, ← hlength, List.getElem?_append_right (Nat.le_refl _), Nat.sub_self,
    firstRow_append hline]
  exact stripEnding_append hline (firstRow_mem_endings hall (dropWhile_ne_newline _))

/-- In the column of an offset a line has the character that stands there, if that ends
no line and is not dropped at its end. -/
theorem getElem?_columnOf {first : Char} {more : Text} (hdrop : t.drop o = first :: more)
    (hfeed : first ≠ '\n') (hreturn : first ≠ '\r') :
    (dropTrailing '\r' (t.lineAt o))[t.columnOf o]? = some first := by
  have hat : (t.lineAt o)[t.columnOf o]? = some first := by
    rw [lineAt, columnOf, List.getElem?_append_right (Nat.le_refl _), Nat.sub_self, hdrop]
    simp [hfeed]
  obtain ⟨returns, hreturns, hall⟩ := exists_dropTrailing '\r' (t.lineAt o)
  rw [hreturns] at hat
  by_cases hlt : t.columnOf o < (dropTrailing '\r' (t.lineAt o)).length
  · rwa [List.getElem?_append_left hlt] at hat
  · rw [List.getElem?_append_right (Nat.not_lt.mp hlt)] at hat
    exact absurd (hall first (List.mem_of_getElem? hat)) hreturn

end

end Text

/-! ### Errors that are raised -/

namespace ScanError

/-- The line that the position of an error is on, without carriage returns at its
end. -/
def line (e : ScanError) : Text :=
  Text.dropTrailing '\r' (e.source.lineAt e.position.offset.toNat)

/-- The position of an error is that of an offset of its source. -/
def IsAt (e : ScanError) (o : Nat) : Prop :=
  e.position = ⟨e.source.lineOf o + 1, e.source.columnOf o + 1, o⟩

/-- The row that a report shows is the line, where rows above it end at line feeds only
and none ends within it. -/
theorem IsAt.shownRow_eq {e : ScanError} {o : Nat} (h : e.IsAt o)
    (habove : Text.plainBreaks (e.source.aboveLine e.position.offset.toNat) = true)
    (hline : ∀ d ∈ e.line, Text.isRowBreak d = false) : e.shownRow = e.line := by
  rw [IsAt] at h
  have hnumber : (e.position.line - 1).toNat = e.source.lineOf e.position.offset.toNat := by
    simp [h]
  have hpos : 0 ≤ e.position.line - 1 := by simp [h]
  rw [shownRow, if_pos hpos, hnumber]
  exact Text.getElem?_rows habove hline

end ScanError

namespace Cursor

variable {source filename : Text} {c : Cursor}

/-- An error that reading on gives is about its source, and its text, which does not start
with whitespace, stands at the offset of its position. -/
theorem Sound.error_at {e : ScanError} {n : Nat} (h : Sound source filename c)
    (he : .error e ∈ c.reads n) :
    e.source = source ∧ ∃ (o : Nat) (first : Char) (more rest : Text), e.IsAt o ∧
      source.drop o = e.text ++ rest ∧ e.text = first :: more ∧ Text.isBlank first = false := by
  rw [reads_eq_map_stream, List.mem_map] at he
  obtain ⟨k, -, hk⟩ := he
  have hsound := h.after k
  have hevent : (c.after k).next.1 = .error e := hk
  rcases blank_or_front (c.after k).rest with
    hblank | ⟨gap, lexeme, rest, outcome, hrest, hgap, hfront⟩
  · rw [(hsound.next_of_blank hblank).1] at hevent
    exact nomatch hevent
  · rw [(hsound.next_of_front hrest hgap hfront).1] at hevent
    obtain ⟨first, more, hlexeme, ink⟩ := hfront.exists_head
    cases outcome with
    | token kind value => exact nomatch hevent
    | fault kind =>
        obtain rfl := Except.error.inj hevent
        have hdrop : source.drop ((c.after k).position + gap.length) = lexeme ++ rest := by
          rw [← List.drop_drop, ← hsound.rest_eq, hrest, List.drop_left]
        have hle : (c.after k).position + gap.length ≤ source.length := by
          have hlength := congrArg List.length hdrop
          rw [List.length_drop, hlexeme, List.cons_append, List.length_cons] at hlength
          omega
        exact ⟨rfl, _, first, more, rest, LineIndex.position_ofText hle, hdrop, hlexeme, ink⟩

/-- Where above the line of an error rows end at line feeds only, and none ends within
the line, the report of the error shows that line, and the line has the first character
of the offending text in the column of the error. -/
theorem Reached.reportRows_line (h : Reached source filename c) {op : Operation}
    (hop : op.readsTokens = true) {e : ScanError} (he : (c.perform op).1 = .error e)
    (habove : Text.plainBreaks (e.source.aboveLine e.position.offset.toNat) = true)
    (hline : ∀ d ∈ e.line, Text.isRowBreak d = false) :
    e.source = source ∧
    (∀ name, (e.reportRows name)[3]?
      = some (Text.ofInt e.position.line ++ " | ".toList ++ e.line)) ∧
    ∃ first, e.text.head? = some first ∧
      e.line[(e.position.column - 1).toNat]? = some first := by
  obtain ⟨hsound, -⟩ := h.sound_and_position_le
  obtain ⟨n, hgives, -⟩ := perform_gives hop c
  rw [he] at hgives
  obtain ⟨hsource, o, first, more, rest, hat, hdrop, htext, ink⟩ :=
    hsound.error_at hgives.mem_of_error
  refine ⟨hsource, ?_, first, by rw [htext]; rfl, ?_⟩
  · intro name
    rw [← hat.shownRow_eq habove hline]
    rfl
  · rw [ScanError.IsAt, hsource] at hat
    have hcolumn : (e.position.column - 1).toNat = source.columnOf o := by simp [hat]
    have hoffset : e.position.offset.toNat = o := by simp [hat]
    rw [htext, List.cons_append] at hdrop
    rw [hcolumn, ScanError.line, hoffset, hsource]
    exact Text.getElem?_columnOf hdrop (Text.ne_of_isBlank ink (by decide))
      (Text.ne_of_isBlank ink (by decide))

/-- An open string on the second of three lines that end in carriage returns and line
feeds. The report shows the second line without them. -/
theorem reportRows_line_between_returns :
    let source := "let x\r\n = \"ab\r\r\ncd".toList
    let e : ScanError := ⟨.unterminatedString,
      "input ended before closing quote of string".toList, ⟨2, 4, 10⟩,
      "\"ab\r\r\ncd".toList, source, []⟩
    ((start source []).perform .tokenize).1 = .error e ∧
    Text.plainBreaks (e.source.aboveLine e.position.offset.toNat) = true ∧
    (∀ d ∈ e.line, Text.isRowBreak d = false) ∧ e.line = " = \"ab".toList ∧
    e.source = source ∧
    (∀ name, (e.reportRows name)[3]?
      = some (Text.ofInt e.position.line ++ " | ".toList ++ e.line)) ∧
    ∃ first, e.text.head? = some first ∧
      e.line[(e.position.column - 1).toNat]? = some first := by
  intro source e
  have he : ((start source []).perform .tokenize).1 = .error e := by decide +kernel
  have habove : Text.plainBreaks (e.source.aboveLine e.position.offset.toNat) = true := by
    decide +kernel
  have hshown : e.line = " = \"ab".toList := by decide +kernel
  have hline : ∀ d ∈ e.line, Text.isRowBreak d = false := by
    simp [hshown, Text.isRowBreak]
  exact ⟨he, habove, hline, hshown,
    Reached.start.reportRows_line (by decide) he habove hline⟩

/-- A form feed in a string is no line break, but it ends a row. So the report of an error
on the line below it shows the rest of the string's line. -/
theorem shownRow_below_formFeed :
    let source := "let s = \"a\x0cb\";\n99999999999".toList
    let e : ScanError := ⟨.malformedInteger,
      "integer literal '99999999999' does not fit in a 32-bit signed integer".toList,
      ⟨2, 1, 15⟩, "99999999999".toList, source, defaultFilename⟩
    ((start source defaultFilename).perform .tokenize).1 = .error e ∧
    e.line = "99999999999".toList ∧ e.shownRow = "b\";".toList ∧ e.shownRow ≠ e.line ∧
    e.shownRow[(e.position.column - 1).toNat]? ≠ e.text.head? := by
  decide +kernel

end Cursor

end MonkeyScan
