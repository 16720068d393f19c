import MonkeyScan.Proofs.Consumption
import MonkeyScan.Proofs.Modes
import MonkeyScan.Proofs.Numeral
import MonkeyScan.Proofs.Underline

/-!
# `MonkeyScan.Proofs.Report`: carets under the offending text

A report has five rows. The last three of them start with a gutter that ends in a bar:
an empty row, the row of the source, and the row of carets. Where the source has no
breaks but line feeds, bare or behind a carriage return, its rows are its lines, and the
carets are under the first line of the offending text, whatever that is and however wide
the gutter.

* `Text.plainBreaks_iff`: what it means that a text has no other breaks.
* `Text.not_isRowBreak_of_mem_line`, `Text.exists_lineAt_eq`: a line of such a text is one
  row, and at most one carriage return is dropped at its end.
* `Cursor.Reached.mem_errors`: an error that an operation raises is one of the source.
* `ScanError.getElem?_caretRow`: where the carets are.
* `ScanError.Marks`: what the three rows show.
* `Cursor.Reached.marks_report`: the report of every error that is raised is of that form.
-/

set_option autoImplicit false

namespace MonkeyScan

open Scan

namespace Text

/-! ### Lines of texts without other breaks -/

variable {t : Text} {o : Nat}

/-- All rows end at line feeds if and only if each break is a line feed, or a carriage
return with a line feed behind it. -/
theorem plainBreaks_iff : plainBreaks t = true ↔ ∀ before c behind,
    t = before ++ c :: behind → isRowBreak c = true →
      c = '\n' ∨ (c = '\r' ∧ behind.head? = some '\n') := by
  fun_induction plainBreaks t with
  | case1 => simp
  | case2 more ih =>
      rw [ih]
      constructor
      · intro hmore before c behind heq hc
        cases before with
        | nil =>
            obtain ⟨rfl, rfl⟩ := List.cons.inj heq
            exact Or.inr ⟨rfl, rfl⟩
        | cons _ rest =>
            have hrest := (List.cons.inj heq).2
            cases rest with
            | nil =>
                obtain ⟨rfl, -⟩ := List.cons.inj hrest
                exact Or.inl rfl
            | cons _ others => exact hmore others c behind (List.cons.inj hrest).2 hc
      · intro hall before c behind heq hc
        exact hall ('\r' :: '\n' :: before) c behind (by rw [heq]; rfl) hc
  | case3 c more hnot ih =>
      rw [Bool.and_eq_true, ih, Bool.or_eq_true, beq_iff_eq, Bool.not_eq_true']
      constructor
      · rintro ⟨hfirst, hmore⟩ before d behind heq hd
        cases before with
        | nil =>
            obtain ⟨rfl, rfl⟩ := List.cons.inj heq
            exact hfirst.imp_right fun hplain => absurd hplain (by simp [hd])
        | cons _ others => exact hmore others d behind (List.cons.inj heq).2 hd
      · intro hall
        refine ⟨?_, fun before d behind heq hd =>
          hall (c :: before) d behind (by rw [heq]; rfl) hd⟩
        by_contra hfirst
        rw [not_or, Bool.not_eq_false] at hfirst
        obtain ⟨hfeed, hbreak⟩ := hfirst
        rcases hall [] c more rfl hbreak with hc | ⟨rfl, hhead⟩
        · exact hfeed hc
        · obtain ⟨others, rfl⟩ := List.head?_eq_some_iff.mp hhead
          exact hnot others rfl rfl

/-- Above a line there are no other breaks either. -/
theorem plainBreaks_aboveLine (h : plainBreaks t = true) :
    plainBreaks (t.aboveLine o) = true := by
  rw [plainBreaks_iff] at h ⊢
  intro before c behind habove hc
  have hsplit := t.aboveLine_append o
  have hlast := t.getLast?_aboveLine o
  rw [habove, List.append_assoc, List.cons_append] at hsplit
  rcases h before c _ hsplit.symm hc with hfeed | ⟨hreturn, hhead⟩
  · exact Or.inl hfeed
  · cases behind with
    | nil =>
        -- What is above ends in a line feed, so this break is no carriage return.
        rw [habove, List.getLast?_concat] at hlast
        exact Or.inl hlast
    | cons d others => exact Or.inr ⟨hreturn, hhead⟩

/-- A line feed is no part of a line. -/
theorem newline_not_mem_lineAt (t : Text) (o : Nat) : '\n' ∉ t.lineAt o := by
  rw [lineAt, List.mem_append, not_or]
  refine ⟨newline_not_mem_lastLine _, fun hmem => ?_⟩
  exact absurd (List.mem_takeWhile_imp hmem) (by decide)

/-- No row ends within a line. -/
theorem not_isRowBreak_of_mem_line (h : plainBreaks t = true) :
    ∀ c ∈ dropTrailing '\r' (t.lineAt o), isRowBreak c = false := by
  intro c hc
  by_contra hbreak
  rw [Bool.not_eq_false] at hbreak
  have hfeed := t.newline_not_mem_lineAt o
  have hlast := getLast?_dropTrailing '\r' (t.lineAt o)
  have hsplit := t.aboveLine_append o
  obtain ⟨dropped, hline, -⟩ := exists_dropTrailing '\r' (t.lineAt o)
  obtain ⟨before, behind, hkept⟩ := List.append_of_mem hc
  rw [hkept] at hline hlast
  rw [hline] at hsplit hfeed
  simp only [List.append_assoc, List.cons_append] at hsplit
  rw [← List.append_assoc] at hsplit
  rcases plainBreaks_iff.mp h _ c _ hsplit.symm hbreak with rfl | ⟨rfl, hhead⟩
  · exact hfeed (by simp)
  · cases behind with
    | nil => exact hlast List.getLast?_concat
    | cons d others =>
        obtain rfl := Option.some.inj hhead
        exact hfeed (by simp)

/-- At most one carriage return is dropped at the end of a line. -/
theorem exists_lineAt_eq (h : plainBreaks t = true) (o : Nat) :
    ∃ ending, t.lineAt o = dropTrailing '\r' (t.lineAt o) ++ ending ∧
      (ending = [] ∨ ending = ['\r']) := by
  obtain ⟨dropped, hline, hreturns⟩ := exists_dropTrailing '\r' (t.lineAt o)
  refine ⟨dropped, hline, ?_⟩
  match dropped with
  | [] => exact Or.inl rfl
  | [c] =>
      rw [hreturns c List.mem_cons_self]
      exact Or.inr rfl
  | c :: d :: others =>
      have hsplit := t.aboveLine_append o
      obtain ⟨rfl, hmore⟩ := List.forall_mem_cons.mp hreturns
      obtain ⟨rfl, -⟩ := List.forall_mem_cons.mp hmore
      rw [hline] at hsplit
      simp only [List.append_assoc, List.cons_append] at hsplit
      rw [← List.append_assoc] at hsplit
      -- A carriage return comes behind the first, and no line feed.
      rcases plainBreaks_iff.mp h _ _ _ hsplit.symm (by decide) with hc | ⟨-, hhead⟩
      · exact absurd hc (by decide)
      · exact absurd hhead (by simp)

/-- Where a character is in a text that ends in some copies of it. -/
theorem getElem?_append_replicate {left : Text} {c : Char} (h : c ∉ left) (n k : Nat) :
    (left ++ List.replicate n c)[k]? = some c ↔ left.length ≤ k ∧ k < left.length + n := by
  rcases Nat.lt_or_ge k left.length with hlt | hge
  · rw [List.getElem?_append_left hlt]
    constructor
    · intro hk
      exact absurd (List.mem_of_getElem? hk) h
    · rintro ⟨hle, -⟩
      exact absurd hlt (Nat.not_lt.mpr hle)
  · rw [List.getElem?_append_right hge, List.getElem?_replicate]
    simp only [Option.ite_none_right_eq_some, and_true]
    omega

/-- The first place of a character that stands behind others. -/
theorem idxOf?_append_cons {left : Text} {c : Char} (h : c ∉ left) (right : Text) :
    (left ++ c :: right).idxOf? c = some left.length := by
  induction left with
  | nil => simp [List.idxOf?_cons]
  | cons d left ih =>
      rw [List.mem_cons, not_or] at h
      have hne : (d == c) = false := beq_eq_false_iff_ne.mpr (Ne.symm h.1)
      rw [List.cons_append, List.idxOf?_cons, hne, ih h.2]
      rfl

/-- A number that is not negative is written with digits only. -/
theorem not_mem_ofInt {n : Int} {c : Char} (hn : 0 ≤ n) (hc : isDigit c = false) :
    c ∉ ofInt n := by
  obtain ⟨m, rfl⟩ := Int.eq_ofNat_of_zero_le hn
  intro hmem
  exact absurd (isDigit_of_mem_ofNat hmem) (by simp [hc])

end Text

/-! ### Errors that are raised -/

namespace Cursor

variable {source filename : Text} {c : Cursor}

/-- The items that are left for a cursor are the last ones of the source. -/
def LeavesItems (source filename : Text) (c : Cursor) : Prop :=
  Sound source filename c ∧ c.position ≤ source.length ∧
    itemsFrom c.position c.rest <:+ items source

/-- One reading takes the next item, or nothing. -/
theorem LeavesItems.next (h : LeavesItems source filename c) :
    LeavesItems source filename c.next.2 := by
  obtain ⟨hsound, hle, hleft⟩ := h
  rcases hsound.next_cases hle with ⟨i, more, after, htakes⟩ | ⟨hnone, -, hsound', hend⟩
  · rw [htakes.found] at hleft
    rw [htakes.next]
    refine ⟨htakes.sound, htakes.within, ?_⟩
    rw [htakes.left]
    exact (List.suffix_cons i more).trans hleft
  · refine ⟨hsound', Nat.le_of_eq hend, ?_⟩
    rw [hsound'.rest_eq, hend, List.drop_length, itemsFrom_of_blank (List.forall_mem_nil _)]
    exact List.nil_suffix

/-- So does any number of readings. -/
theorem LeavesItems.after (h : LeavesItems source filename c) (n : Nat) :
    LeavesItems source filename (c.after n) := by
  induction n generalizing c with
  | zero => exact h
  | succ n ih => exact ih h.next

/-- An error of one reading is that of an item. -/
theorem LeavesItems.mem_errors (h : LeavesItems source filename c) {e : ScanError}
    (he : c.next.1 = .error e) : e ∈ (tokenizeAll source filename).2 := by
  obtain ⟨hsound, hle, hleft⟩ := h
  rcases hsound.next_cases hle with ⟨i, more, after, htakes⟩ | ⟨-, hend, -⟩
  · rw [htakes.found] at hleft
    rw [htakes.next] at he
    rcases i.event_cases source filename with ⟨t, -, -, hevent⟩ | ⟨e', -, herror, hevent⟩
    · exact nomatch hevent.symm.trans he
    · obtain rfl := Except.error.inj (hevent.symm.trans he)
      exact List.mem_filterMap.mpr ⟨i, hleft.subset List.mem_cons_self, herror⟩
  · exact nomatch hend.symm.trans he

/-- An error that an operation raises is one of the errors of the source. -/
theorem Reached.mem_errors (h : Reached source filename c) {op : Operation}
    (hop : op.readsTokens = true) {e : ScanError} (he : (c.perform op).1 = .error e) :
    e ∈ (tokenizeAll source filename).2 := by
  have hleaves : LeavesItems source filename c :=
    h.induct_next ⟨.start source filename, Nat.zero_le _, List.suffix_rfl⟩ fun _ => .next
  obtain ⟨n, hgives, -⟩ := perform_gives hop c
  rw [he] at hgives
  have hmem := hgives.mem_of_error
  rw [reads_eq_map_stream, List.mem_map] at hmem
  obtain ⟨k, -, hk⟩ := hmem
  exact (hleaves.after k).mem_errors hk

end Cursor

/-! ### The rows of a report -/

namespace ScanError

/-- The offending text up to its first line break. -/
def firstPart (e : ScanError) : Text :=
  e.text.takeWhile fun c => !Text.isRowBreak c

/-- How wide the row of a source is up to the text that is at fault: the number of the line,
the bar with a blank on either side, and what stands before the text. -/
def indent (e : ScanError) : Nat :=
  (Text.ofInt e.position.line).length + 1 + 2 + (e.position.column - 1).toNat

/-- The carets are behind the gutter and the blanks, up to the end of their row. -/
theorem getElem?_caretRow (e : ScanError) (k : Nat) :
    e.caretRow[k]? = some '^' ↔ e.indent ≤ k ∧ k < e.indent + e.caretCount := by
  have hleft : '^' ∉ Text.repeated ' ' ((Text.ofInt e.position.line).length + 1) ++ "| ".toList
      ++ Text.repeated ' ' (e.position.column - 1) := by simp [Text.repeated]
  have hlength : (Text.repeated ' ' ((Text.ofInt e.position.line).length + 1) ++ "| ".toList
      ++ Text.repeated ' ' (e.position.column - 1)).length = e.indent := by
    rw [List.length_append, List.length_append, Text.repeated, Text.repeated,
      List.length_replicate, List.length_replicate]
    rfl
  rw [← hlength]
  exact Text.getElem?_append_replicate hleft e.caretCount k

/-- The bars of the last three rows are in one column, for a number of any length. -/
theorem idxOf?_bar {e : ScanError} (h : 0 ≤ e.position.line) :
    ∀ row ∈ [Text.repeated ' ' ((Text.ofInt e.position.line).length + 1) ++ ['|'],
        Text.ofInt e.position.line ++ " | ".toList ++ e.line, e.caretRow],
      row.idxOf? '|' = some ((Text.ofInt e.position.line).length + 1) := by
  have hblank : '|' ∉ Text.repeated ' ' ((Text.ofInt e.position.line).length + 1) := by
    simp [Text.repeated]
  have hlength : (Text.repeated ' ' ((Text.ofInt e.position.line).length + 1)).length
      = (Text.ofInt e.position.line).length + 1 := by simp [Text.repeated]
  have hnumber : '|' ∉ Text.ofInt e.position.line ++ [' '] := by
    simp [Text.not_mem_ofInt (c := '|') h (by decide)]
  refine List.forall_mem_cons.mpr ⟨?_, List.forall_mem_cons.mpr ⟨?_, ?_⟩⟩
  · rw [Text.idxOf?_append_cons hblank, hlength]
  · have hrow : Text.ofInt e.position.line ++ " | ".toList ++ e.line
        = (Text.ofInt e.position.line ++ [' ']) ++ '|' :: (' ' :: e.line) := by simp
    rw [hrow, Text.idxOf?_append_cons hnumber, List.length_append]
    rfl
  · refine List.forall_mem_singleton.mpr ?_
    rw [caretRow, List.append_assoc, List.append_assoc, ← hlength]
    exact Text.idxOf?_append_cons hblank _

/-- Three rows of a report mark the offending text of an error, with a gutter that ends in
the column `bar` and a first caret in the column `start`. -/
structure Marks (e : ScanError) (bar start : Nat) (gap shown marks : Text) : Prop where
  bars : ∀ row ∈ [gap, shown, marks], row.idxOf? '|' = some bar
  number : shown.take (bar + 2) = Text.ofInt e.position.line ++ " | ".toList
  /-- The line of the position comes behind the gutter, without its ending. -/
  line : ∃ body ending, shown.drop (bar + 2) = body ∧
    (Text.lines e.source)[(e.position.line - 1).toNat]? = some (body ++ ending) ∧
    (∀ c ∈ body, Text.isRowBreak c = false) ∧ (ending = [] ∨ ending = ['\r'])
  start_eq : (start : Int) = bar + 1 + e.position.column
  nonempty : e.firstPart ≠ []
  /-- The offending text starts there, as far as it is on the line. -/
  quoted : (shown.drop start).take e.firstPart.length = e.firstPart
  /-- The carets are under it, and nowhere else. -/
  carets : ∀ k, marks[k]? = some '^' ↔ start ≤ k ∧ k < start + e.firstPart.length

namespace Quotes

variable {e : ScanError} {o : Nat} {rest : Text}

/-- Where no row ends within the line of an error, what is underlined is the offending
text up to its first line break. -/
theorem firstPart_eq (h : e.Quotes o rest) (hline : ∀ c ∈ e.line, Text.isRowBreak c = false) :
    e.firstPart = e.underlined := by
  obtain ⟨before, behind, hsplit, -⟩ := h.line_eq
  have hplain : ∀ c ∈ e.underlined, (!Text.isRowBreak c) = true := by
    intro c hc
    rw [hline c (by simp [hsplit, hc])]
    rfl
  obtain ⟨dropped, hfirst, hreturns⟩ := Text.exists_dropTrailing '\r' e.firstLine
  have htext : e.text = e.underlined ++ (dropped ++ e.text.dropWhile (· != '\n')) := by
    rw [← List.append_assoc, underlined, ← hfirst, firstLine, List.takeWhile_append_dropWhile]
  rw [firstPart, htext, List.takeWhile_append_of_pos hplain]
  -- A line feed or a carriage return comes behind it, or nothing.
  cases dropped with
  | nil =>
      rcases Text.dropWhile_ne_newline e.text with hend | ⟨more, hend⟩
      · rw [hend]
        simp
      · rw [hend]
        simp [Text.isRowBreak]
  | cons c others =>
      rw [hreturns c List.mem_cons_self]
      simp [Text.isRowBreak]

/-- The message of an error is on one line. -/
theorem newline_not_mem_message (h : e.Quotes o rest) : '\n' ∉ e.message := by
  rw [h.message_eq]
  rcases h.front.fault_cases with ⟨hkind, hdigits⟩ | ⟨hkind, -⟩
  · have hfeed : '\n' ∉ e.text := fun hmem => absurd (hdigits _ hmem) (by decide)
    rw [hkind]
    show '\n' ∉ "integer literal '".toList ++ e.text
      ++ "' does not fit in a 32-bit signed integer".toList
    simp [hfeed]
  · rw [hkind]
    show '\n' ∉ "input ended before closing quote of string".toList
    simp

/-- A report is split into its rows again, where the name of the source and the row that is
shown have no line feed. -/
theorem lines_reportAs (h : e.Quotes o rest) {name : Text} (hname : '\n' ∉ name)
    (hshown : '\n' ∉ e.shownRow) : Text.lines (e.reportAs name) = e.reportRows name := by
  have hline : 0 ≤ e.position.line := by rw [h.isAt]; exact Int.natCast_nonneg _
  have hcolumn : 0 ≤ e.position.column := by rw [h.isAt]; exact Int.natCast_nonneg _
  have hmessage := h.newline_not_mem_message
  have hnumber : '\n' ∉ Text.ofInt e.position.line := Text.not_mem_ofInt hline (by decide)
  have hplace : '\n' ∉ Text.ofInt e.position.column := Text.not_mem_ofInt hcolumn (by decide)
  refine List.splitOn_intercalate '\n' ?_ (List.cons_ne_nil _ _)
  simp [reportRows, Text.repeated, hmessage, hnumber, hplace, hname, hshown]

/-- Behind the gutter and what stands before it, the offending text is quoted as far as it
is underlined. -/
theorem take_drop_line (h : e.Quotes o rest) :
    ((Text.ofInt e.position.line ++ " | ".toList ++ e.line).drop e.indent).take
      e.underlined.length = e.underlined := by
  obtain ⟨before, behind, hsplit, hbefore, -⟩ := h.line_eq
  have hwidth : (Text.ofInt e.position.line ++ " | ".toList ++ before).length = e.indent := by
    have hcolumn : (e.position.column - 1).toNat = before.length := by
      rw [h.isAt, hbefore]
      simp
    rw [indent, hcolumn, List.length_append, List.length_append]
    rfl
  rw [hsplit, ← List.append_assoc, List.drop_left' hwidth, List.take_left]

/-- The line of an error is that of its position, without the ending. -/
theorem exists_getElem?_lines (h : e.Quotes o rest) (hplain : Text.plainBreaks e.source = true) :
    ∃ ending, (Text.lines e.source)[(e.position.line - 1).toNat]? = some (e.line ++ ending) ∧
      (ending = [] ∨ ending = ['\r']) := by
  obtain ⟨ending, hending, hcases⟩ := Text.exists_lineAt_eq hplain o
  refine ⟨ending, ?_, hcases⟩
  have hat : e.position = ⟨e.source.lineOf o + 1, e.source.columnOf o + 1, o⟩ := h.isAt
  have hindex : (e.position.line - 1).toNat = e.source.lineOf o := by simp [hat]
  have hoffset : e.position.offset.toNat = o := by simp [hat]
  rw [hindex, Text.getElem?_lines, line, hoffset, ← hending]

/-- The three rows that mark an error. -/
theorem marks (h : e.Quotes o rest) (hplain : Text.plainBreaks e.source = true) :
    e.Marks ((Text.ofInt e.position.line).length + 1) e.indent
      (Text.repeated ' ' ((Text.ofInt e.position.line).length + 1) ++ ['|'])
      (Text.ofInt e.position.line ++ " | ".toList ++ e.line) e.caretRow := by
  have hline : ∀ c ∈ e.line, Text.isRowBreak c = false := Text.not_isRowBreak_of_mem_line hplain
  have hpart := h.firstPart_eq hline
  have hshown := h.isAt.shownRow_eq (Text.plainBreaks_aboveLine hplain) hline
  constructor
  case bars =>
    have hpos : 0 ≤ e.position.line := by rw [h.isAt]; exact Int.natCast_nonneg _
    exact idxOf?_bar hpos
  case number => exact List.take_left' (by simp)
  case line =>
    obtain ⟨ending, hending, hcases⟩ := h.exists_getElem?_lines hplain
    exact ⟨e.line, ending, List.drop_left' (by simp), hending, hline, hcases⟩
  case start_eq =>
    have hcolumn : 1 ≤ e.position.column := by
      rw [h.isAt]
      show (1 : Int) ≤ (e.source.columnOf o : Nat) + 1
      omega
    rw [indent]
    omega
  case nonempty =>
    rw [hpart]
    exact h.underlined_ne_nil
  case quoted =>
    rw [hpart]
    exact h.take_drop_line
  case carets =>
    intro k
    rw [hpart, ← h.caretCount_eq hshown]
    exact e.getElem?_caretRow k

end Quotes

end ScanError

namespace Cursor

variable {source filename : Text} {c : Cursor}

/-- The report of every error that is raised has five rows. In a source whose only breaks
are line feeds, bare or behind a carriage return, the last three of them mark the
offending text. -/
theorem Reached.marks_report (hplain : Text.plainBreaks source = true) (hname : '\n' ∉ filename)
    (h : Reached source filename c) {op : Operation} (hop : op.readsTokens = true)
    {e : ScanError} (he : (c.perform op).1 = .error e) :
    ∃ header locator gap shown marks bar start,
      Text.lines e.report = [header, locator, gap, shown, marks] ∧
      e.source = source ∧ e.Marks bar start gap shown marks := by
  obtain ⟨rfl, rfl, o, rest, hquotes⟩ := exists_quotes (h.mem_errors hop he)
  have hline : ∀ d ∈ e.line, Text.isRowBreak d = false := Text.not_isRowBreak_of_mem_line hplain
  have hshown := hquotes.isAt.shownRow_eq (Text.plainBreaks_aboveLine hplain) hline
  have hfeed : '\n' ∉ e.shownRow := by
    rw [hshown]
    exact fun hmem => absurd (hline _ hmem) (by decide)
  have hmarks := hquotes.marks hplain
  rw [← hshown] at hmarks
  exact ⟨_, _, _, _, _, _, _, hquotes.lines_reportAs hname hfeed, rfl, hmarks⟩

/-- An open string that goes on behind the line on which it starts. -/
theorem marks_report_of_open_string :
    let source := "let x\r\n = \"ab\r\ncd".toList
    let e : ScanError := ⟨.unterminatedString,
      "input ended before closing quote of string".toList, ⟨2, 4, 10⟩, "\"ab\r\ncd".toList,
      source, "a.monkey".toList⟩
    Text.plainBreaks source = true ∧ '\n' ∉ "a.monkey".toList ∧
    ((start source "a.monkey".toList).perform .tokenize).1 = .error e ∧
    e.firstPart = "\"ab".toList ∧
    ∃ header locator gap shown marks bar start,
      Text.lines e.report = [header, locator, gap, shown, marks] ∧
      e.source = source ∧ e.Marks bar start gap shown marks := by
  intro source e
  have hplain : Text.plainBreaks source = true := by decide +kernel
  have hname : '\n' ∉ "a.monkey".toList := by decide
  have he : ((start source "a.monkey".toList).perform .tokenize).1 = .error e := by
    decide +kernel
  exact ⟨hplain, hname, he, by decide +kernel,
    Reached.start.marks_report hplain hname (by decide) he⟩

end Cursor

end MonkeyScan
