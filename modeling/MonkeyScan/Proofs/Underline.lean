import MonkeyScan.Proofs.Diagnosis
import MonkeyScan.Proofs.Row

/-!
# `MonkeyScan.Proofs.Underline`: two underlines of one error

An error is underlined twice. A report puts carets under the row that it shows, and a
diagnostic marks a range. Both keep to the line of the error, each by a rule of its own:
the range goes up to the first line feed of the offending text, and the carets go as far
as the row, which has no carriage returns at its end.

So the two are equally long where the report shows the line of the error, unless the
offending text goes on behind a carriage return and line feed, or ends in a carriage
return. That takes an open string. The range then has the carriage return in it.

* `Text.dropTrailing_append`: what is dropped at the end of a text.
* `ScanError.Quotes`, `exists_quotes`: where an error of a source stands, and what it is.
* `ScanError.Quotes.line_eq`: the line of an error around the part that is underlined.
* `ScanError.Quotes.caretCount_eq`: the carets are as many as that part has characters.
* `twoUnderlines_of_mem_errors`: both underlines of every error of a source.
-/

set_option autoImplicit false

namespace MonkeyScan

open Scan

namespace Text

/-! ### Characters at the end -/

variable {c : Char} {a b : Text}

/-- Nothing is left of a text if it has no character but the one that is dropped. -/
theorem dropTrailing_eq_nil_iff : dropTrailing c a = [] ↔ ∀ d ∈ a, d = c := by
  have hiff : dropTrailing c a = [] ↔ ∀ d ∈ a, (d == c) = true := List.rdropWhile_eq_nil_iff
  simpa only [beq_iff_eq] using hiff

/-- What is left is the front of the text. -/
theorem dropTrailing_isPrefix (c : Char) (a : Text) : dropTrailing c a <+: a :=
  List.rdropWhile_prefix (· == c) a

/-- What is left has another character at its end. -/
theorem getLast?_dropTrailing (c : Char) (a : Text) : (dropTrailing c a).getLast? ≠ some c := by
  intro hlast
  have hne : dropTrailing c a ≠ [] := by
    intro hnil
    rw [hnil] at hlast
    exact nomatch hlast
  have hnot : ¬ ((dropTrailing c a).getLast hne == c) = true := List.rdropWhile_last_not _ _ hne
  rw [List.getLast?_eq_some_getLast hne] at hlast
  exact hnot (beq_iff_eq.mpr (Option.some.inj hlast))

/-- A text is left as it is if and only if it ends in another character. -/
theorem dropTrailing_eq_self_iff : dropTrailing c a = a ↔ a.getLast? ≠ some c := by
  constructor
  · intro heq
    rw [← heq]
    exact getLast?_dropTrailing c a
  · intro hlast
    refine List.rdropWhile_eq_self_iff.mpr fun hne heq => hlast ?_
    rw [List.getLast?_eq_some_getLast hne, beq_iff_eq.mp heq]

/-- Where another character comes, nothing before it is dropped. -/
theorem dropTrailing_append (h : dropTrailing c b ≠ []) :
    dropTrailing c (a ++ b) = a ++ dropTrailing c b := by
  have hdrop : (b.reverse.dropWhile (· == c)).isEmpty = false := by
    rw [List.isEmpty_eq_false_iff]
    intro hnil
    exact h (congrArg List.reverse hnil)
  show ((a ++ b).reverse.dropWhile (· == c)).reverse = a ++ (b.reverse.dropWhile (· == c)).reverse
  rw [List.reverse_append, List.dropWhile_append, hdrop, if_neg Bool.false_ne_true,
    List.reverse_append, List.reverse_reverse]

/-- More text at the end leaves what was left. -/
theorem dropTrailing_isPrefix_append : dropTrailing c a <+: dropTrailing c (a ++ b) := by
  by_cases h : dropTrailing c b = []
  · -- All that is added is dropped again.
    have hall := dropTrailing_eq_nil_iff.mp h
    have hdrop : ∀ d ∈ b.reverse, (d == c) = true := by
      intro d hd
      exact beq_iff_eq.mpr (hall d (List.mem_reverse.mp hd))
    have heq : dropTrailing c (a ++ b) = dropTrailing c a := by
      show ((a ++ b).reverse.dropWhile (· == c)).reverse = (a.reverse.dropWhile (· == c)).reverse
      rw [List.reverse_append, List.dropWhile_append_of_pos hdrop]
    exact ⟨[], (List.append_nil _).trans heq.symm⟩
  · rw [dropTrailing_append h]
    exact (dropTrailing_isPrefix c a).trans (List.prefix_append _ _)

/-! ### Joined lines -/

/-- The last of some joined lines is the last line. -/
theorem getLast?_lines_intercalate {last : Text} (h : '\n' ∉ last) (above : List Text) :
    (lines (['\n'].intercalate (above ++ [last]))).getLast? = some last := by
  have hlast : (lines last).getLast? = some last :=
    congrArg List.getLast? (List.splitOn_eq_singleton h)
  induction above with
  | nil => rw [List.nil_append, List.intercalate_singleton, hlast]
  | cons row more ih =>
      have hne : more ++ [last] ≠ [] :=
        List.append_ne_nil_of_right_ne_nil more (List.cons_ne_nil last [])
      obtain ⟨next, others, hmore⟩ := List.exists_cons_of_ne_nil hne
      rw [hmore] at ih
      rw [List.cons_append, hmore, List.intercalate_cons_cons, List.append_assoc,
        List.singleton_append, lines_append_newline, List.getLast?_append, ih, Option.some_or]

end Text

/-! ### Errors of a source -/

namespace ScanError

/-- The offending text up to its first line feed. -/
def firstLine (e : ScanError) : Text :=
  e.text.takeWhile (· != '\n')

/-- What of the offending text is on its line, without carriage returns at the end of the
line. -/
def underlined (e : ScanError) : Text :=
  Text.dropTrailing '\r' e.firstLine

/-- The offending text stands at an offset of the source, and is at fault there. -/
structure Quotes (e : ScanError) (o : Nat) (rest : Text) : Prop where
  isAt : e.IsAt o
  drop_eq : e.source.drop o = e.text ++ rest
  front : Front (e.text ++ rest) e.text (.fault e.kind)
  message_eq : e.message = e.kind.message e.text

/-- Nothing that is underlined ends a line. -/
theorem newline_not_mem_underlined (e : ScanError) : '\n' ∉ e.underlined := by
  intro hmem
  have hfirst : '\n' ∈ e.firstLine := (Text.dropTrailing_isPrefix _ _).subset hmem
  exact absurd (List.mem_takeWhile_imp hfirst) (by decide)

/-- All of the first line is underlined, or less than that. -/
theorem length_underlined_eq_iff (e : ScanError) :
    e.underlined.length = e.firstLine.length ↔ e.underlined = e.firstLine :=
  ⟨(Text.dropTrailing_isPrefix _ _).eq_of_length, congrArg List.length⟩

end ScanError

/-- A fault at the front is a run of digits, or an open string up to the end. -/
theorem Front.fault_cases {lexeme rest : Text} {kind : FaultKind}
    (h : Front (lexeme ++ rest) lexeme (.fault kind)) :
    (kind = .malformedInteger ∧ ∀ d ∈ lexeme, isDigit d = true) ∨
      (kind = .unterminatedString ∧ rest = []) := by
  generalize htext : lexeme ++ rest = t at h
  cases h with
  | lexeme longest denotes =>
      cases denotes with
      | malformed first others => exact Or.inl ⟨rfl, List.forall_mem_cons.mpr ⟨first, others⟩⟩
  | unterminated opened => exact Or.inr ⟨rfl, List.append_right_eq_self.mp htext⟩

variable {source filename : Text} {e : ScanError}

/-- Each error of a source quotes some text of it. -/
theorem exists_quotes (he : e ∈ (tokenizeAll source filename).2) :
    e.source = source ∧ e.filename = filename ∧ ∃ o rest, e.Quotes o rest := by
  obtain ⟨i, hi, houtcome, heq⟩ := mem_filterMap_error?.mp he
  obtain ⟨hstop, rest, hdrop, hfront⟩ := Item.front_of_mem hi
  have hle : i.start ≤ source.length := Nat.le_trans (Nat.le_add_right _ _) hstop
  rw [houtcome] at hfront
  rw [heq]
  exact ⟨rfl, rfl, i.start, rest, LineIndex.position_ofText hle, hdrop, hfront, rfl⟩

namespace ScanError.Quotes

variable {o : Nat} {rest : Text}

/-- The offending text starts with a character that is not blank. -/
theorem exists_head (h : e.Quotes o rest) :
    ∃ first more, e.text = first :: more ∧ first ≠ '\n' ∧ first ≠ '\r' := by
  obtain ⟨first, more, htext, ink⟩ := h.front.exists_head
  have hfeed : first ≠ '\n' := Text.ne_of_isBlank ink (by decide)
  exact ⟨first, more, htext, hfeed, Text.ne_of_isBlank ink (by decide)⟩

/-- Something of the offending text is underlined. -/
theorem underlined_ne_nil (h : e.Quotes o rest) : e.underlined ≠ [] := by
  obtain ⟨first, more, htext, hfeed, hreturn⟩ := h.exists_head
  intro hnil
  have hall := Text.dropTrailing_eq_nil_iff.mp hnil
  refine hreturn (hall first ?_)
  rw [firstLine, htext, List.takeWhile_cons_of_pos (by simpa using hfeed)]
  exact List.mem_cons_self

/-- Digits are underlined as they are, and behind an open string is nothing. -/
theorem underlined_eq_or (h : e.Quotes o rest) :
    (e.firstLine = e.text ∧ e.underlined = e.text) ∨ rest = [] := by
  rcases h.front.fault_cases with ⟨-, hdigits⟩ | ⟨-, hrest⟩
  · have hfeed : '\n' ∉ e.text := fun hmem => absurd (hdigits _ hmem) (by decide)
    have hreturn : '\r' ∉ e.text := fun hmem => absurd (hdigits _ hmem) (by decide)
    have hfirst : e.firstLine = e.text :=
      List.takeWhile_eq_self_iff.mpr (Text.forall_ne_newline hfeed)
    exact Or.inl ⟨hfirst, by rw [underlined, hfirst, Text.dropTrailing_of_not_mem hreturn]⟩
  · exact Or.inr hrest

/-- The line of an error is what stands before the error, what is underlined, and, if that
is all of the offending text, what comes behind it. -/
theorem line_eq (h : e.Quotes o rest) :
    ∃ before behind, e.line = before ++ (e.underlined ++ behind) ∧
      before.length = e.source.columnOf o ∧ (e.underlined = e.text ∨ behind = []) := by
  have hoffset : e.position.offset.toNat = o := congrArg (fun p => p.offset.toNat) h.isAt
  have hne := h.underlined_ne_nil
  rw [line, hoffset, Text.lineAt, h.drop_eq]
  rcases h.underlined_eq_or with ⟨hfirst, hall⟩ | hrest
  · have hfeed : ∀ d ∈ e.text, (d != '\n') = true := List.takeWhile_eq_self_iff.mp hfirst
    have hkept : Text.dropTrailing '\r' e.text = e.text := by
      rw [← hfirst]
      exact hall.trans hfirst.symm
    rw [List.takeWhile_append_of_pos hfeed]
    obtain ⟨behind, hbehind⟩ := Text.dropTrailing_isPrefix_append
      (c := '\r') (a := e.text) (b := rest.takeWhile (· != '\n'))
    rw [hkept] at hbehind
    refine ⟨_, behind, ?_, rfl, Or.inl hall⟩
    rw [Text.dropTrailing_append, ← hbehind, hall]
    rw [← hbehind, ← hall]
    exact List.append_ne_nil_of_left_ne_nil hne _
  · rw [hrest, List.append_nil]
    refine ⟨_, [], ?_, rfl, Or.inr rfl⟩
    rw [List.append_nil]
    exact Text.dropTrailing_append hne

/-- Where the report shows the line of the error, the carets are as many as characters
are underlined. -/
theorem caretCount_eq (h : e.Quotes o rest) (hshown : e.shownRow = e.line) :
    e.caretCount = e.underlined.length := by
  obtain ⟨before, behind, hline, hbefore, hrest⟩ := h.line_eq
  have hpos : 0 < e.underlined.length := List.length_pos_iff.mpr h.underlined_ne_nil
  have hle : e.underlined.length ≤ e.text.length :=
    ((Text.dropTrailing_isPrefix _ _).trans (List.takeWhile_prefix _)).length_le
  have hcolumn : e.position.column = before.length + 1 := by rw [h.isAt, hbefore]
  have hall : e.underlined.length = e.text.length ∨ behind.length = 0 :=
    hrest.imp (congrArg List.length) (congrArg List.length)
  have hlength : e.line.length = before.length + (e.underlined.length + behind.length) := by
    rw [hline, List.length_append, List.length_append]
  rw [caretCount, hshown, hcolumn]
  omega

end ScanError.Quotes

/-! ### The two underlines -/

/-- A diagnostic starts where an error is. -/
def Diagnostic.StartsAt (d : Diagnostic) (e : ScanError) : Prop :=
  d.range.startLine = e.position.line - 1 ∧ d.range.startCharacter = e.position.column - 1

/-- The two underlines of an error: the range of a diagnostic, and the carets in a row. -/
structure TwoUnderlines (e : ScanError) (d : Diagnostic) (row : Text) : Prop where
  /-- The diagnostic is about the error, and its range covers the offending text up to the
  first line feed. -/
  tells : Diagnostic.Tells e.source (.error e) d
  width : d.range.endCharacter - d.range.startCharacter = e.firstLine.length
  /-- The carets are under a row that is the line of the error. -/
  shown : e.shownRow = e.line
  below : e.underlined <+: e.line.drop (e.position.column - 1).toNat
  carets : row.count '^' = e.underlined.length
  /-- The two are equally long if and only if the range does not end in a carriage return. -/
  agree : d.range.endCharacter - d.range.startCharacter = (row.count '^' : Nat) ↔
    e.firstLine.getLast? ≠ some '\r'
  /-- They are then under the same characters, none of which ends a line. -/
  same : e.firstLine.getLast? ≠ some '\r' → e.underlined = e.firstLine ∧ '\n' ∉ e.underlined

namespace ScanError

/-- The row of carets. -/
def caretRow (e : ScanError) : Text :=
  Text.repeated ' ' ((Text.ofInt e.position.line).length + 1) ++ "| ".toList
    ++ Text.repeated ' ' (e.position.column - 1) ++ Text.repeated '^' e.caretCount

/-- The row of carets comes last in a report. -/
theorem getLast?_lines_reportAs (e : ScanError) (name : Text) :
    (Text.lines (e.reportAs name)).getLast? = some e.caretRow := by
  have hfeed : '\n' ∉ e.caretRow := by simp [caretRow, Text.repeated]
  exact Text.getLast?_lines_intercalate hfeed ((e.reportRows name).take 4)

/-- It has as many carets as there are to be. -/
theorem count_caretRow (e : ScanError) : e.caretRow.count '^' = e.caretCount := by
  simp [caretRow, Text.repeated, List.count_replicate]

namespace Quotes

variable {o : Nat} {rest : Text}

/-- An error stands within its source. -/
theorem le_length (h : e.Quotes o rest) : o ≤ e.source.length := by
  obtain ⟨first, more, htext, -⟩ := h.exists_head
  have hlength := congrArg List.length h.drop_eq
  rw [List.length_drop, htext, List.cons_append, List.length_cons] at hlength
  omega

/-- The first line of the offending text has a character. -/
theorem firstLine_length_pos (h : e.Quotes o rest) : 0 < e.firstLine.length :=
  Nat.lt_of_lt_of_le (List.length_pos_iff.mpr h.underlined_ne_nil)
    (Text.dropTrailing_isPrefix _ _).length_le

/-- The diagnostic has the range of the first line of the offending text. -/
theorem range_ofError (h : e.Quotes o rest) :
    (Diagnostic.ofError e).range
      = Range.ofPosition ((LineIndex.ofText e.source).position o) e.firstLine.length := by
  rw [LineIndex.position_ofText h.le_length, ← h.isAt]
  show Range.ofPosition e.position (max 1 e.firstLine.length) = _
  rw [Nat.max_eq_right h.firstLine_length_pos]

/-- The range covers that line. -/
theorem covers_ofError (h : e.Quotes o rest) :
    (Diagnostic.ofError e).range.Covers e.source e.position.offset e.firstLine := by
  have hoffset : e.position.offset = o := by rw [h.isAt]
  rw [h.range_ofError, hoffset]
  exact Range.covers_ofPosition h.le_length h.drop_eq

end Quotes

end ScanError

/-- A range is as wide as what it covers. -/
theorem Range.Covers.width {r : Range} {t covered : Text} {o : Int} (h : r.Covers t o covered) :
    r.endCharacter - r.startCharacter = covered.length := by
  obtain ⟨n, first, line, rfl, -⟩ := h
  show ((first + covered.length : Nat) : Int) - first = covered.length
  omega

/-- The diagnostic of an error starts where the error is. -/
theorem Diagnostic.startsAt_ofError (e : ScanError) : (Diagnostic.ofError e).StartsAt e :=
  ⟨rfl, rfl⟩

/-- Each error of a source has a diagnostic. -/
theorem ofError_mem_diagnostics (he : e ∈ (tokenizeAll source filename).2) :
    Diagnostic.ofError e ∈ diagnostics source := by
  obtain ⟨i, hi, houtcome, heq⟩ := mem_filterMap_error?.mp he
  rw [diagnostics_eq_filterMap, List.mem_filterMap]
  refine ⟨i, hi, ?_⟩
  rw [Item.diagnostic?, Item.event, houtcome, heq]
  rfl

/-- Every error of a source has one diagnostic that starts where the error is. Where rows above
its line end at line feeds only and none ends within the line, the range of the diagnostic and
the carets of the report are two underlines of the error. -/
theorem twoUnderlines_of_mem_errors (he : e ∈ (tokenizeAll source filename).2)
    (habove : Text.plainBreaks (e.source.aboveLine e.position.offset.toNat) = true)
    (hline : ∀ c ∈ e.line, Text.isRowBreak c = false) :
    ∃ d row, (∀ d', d' ∈ diagnostics source ∧ d'.StartsAt e ↔ d' = d) ∧
      (Text.lines e.report).getLast? = some row ∧ TwoUnderlines e d row := by
  obtain ⟨rfl, -, o, rest, hquotes⟩ := exists_quotes he
  have hrow := hquotes.isAt.shownRow_eq habove hline
  obtain ⟨before, behind, hsplit, hbefore, -⟩ := hquotes.line_eq
  have hcarets := e.count_caretRow.trans (hquotes.caretCount_eq hrow)
  have hcolumn : (e.position.column - 1).toNat = before.length := by
    rw [hquotes.isAt, hbefore]
    simp
  refine ⟨Diagnostic.ofError e, e.caretRow, ?_, e.getLast?_lines_reportAs _, ?_⟩
  · intro d'
    constructor
    · rintro ⟨hmem, hstarts⟩
      by_contra hne
      have hbefore := before_or_before_of_ne e.source hmem (ofError_mem_diagnostics he) hne
      have hstart := Diagnostic.startsAt_ofError e
      rw [Diagnostic.StartsAt] at hstarts hstart
      rw [Diagnostic.Before, Diagnostic.Before] at hbefore
      omega
    · rintro rfl
      exact ⟨ofError_mem_diagnostics he, Diagnostic.startsAt_ofError e⟩
  · have hcovers := hquotes.covers_ofError
    have hsame : e.underlined = e.firstLine ↔ e.firstLine.getLast? ≠ some '\r' :=
      Text.dropTrailing_eq_self_iff
    exact {
      tells := .error hcovers
      width := hcovers.width
      shown := hrow
      below := by
        rw [hcolumn, hsplit, List.drop_left]
        exact List.prefix_append _ _
      carets := hcarets
      agree := by
        rw [hcovers.width, hcarets, Int.natCast_inj, eq_comm, e.length_underlined_eq_iff, hsame]
      same := fun hlast => ⟨hsame.mpr hlast, e.newline_not_mem_underlined⟩ }

/-- Digits on a line between others. -/
theorem twoUnderlines_of_digits :
    let source := "let x =\r\n  9876543210;\r\nx".toList
    let e : ScanError := ⟨.malformedInteger,
      "integer literal '9876543210' does not fit in a 32-bit signed integer".toList, ⟨2, 3, 11⟩,
      "9876543210".toList, source, []⟩
    e ∈ (tokenizeAll source []).2 ∧
    Text.plainBreaks (e.source.aboveLine e.position.offset.toNat) = true ∧
    e.line = "  9876543210;".toList ∧ (∀ c ∈ e.line, Text.isRowBreak c = false) ∧
    ∃ d row, (∀ d', d' ∈ diagnostics source ∧ d'.StartsAt e ↔ d' = d) ∧
      (Text.lines e.report).getLast? = some row ∧ TwoUnderlines e d row := by
  intro source e
  have he : e ∈ (tokenizeAll source []).2 := by decide +kernel
  have habove : Text.plainBreaks (e.source.aboveLine e.position.offset.toNat) = true := by
    decide +kernel
  have hshown : e.line = "  9876543210;".toList := by decide +kernel
  have hline : ∀ c ∈ e.line, Text.isRowBreak c = false := by
    simp [hshown, Text.isRowBreak]
  exact ⟨he, habove, hshown, hline, twoUnderlines_of_mem_errors he habove hline⟩

/-- An open string that goes on behind a carriage return and line feed. The range of its
diagnostic has the carriage return in it, and there is no caret for that. -/
theorem underlines_of_open_string_over_return :
    let source := "\"ab\r\ncd".toList
    let e : ScanError := ⟨.unterminatedString,
      "input ended before closing quote of string".toList, ⟨1, 1, 0⟩, source, source, []⟩
    (tokenizeAll source []).2 = [e] ∧
    diagnostics source = [⟨⟨0, 0, 0, 4⟩, .error, e.message⟩] ∧
    (source.take 4).getLast? = some '\r' ∧
    (Text.lines e.report).getLast? = some "  | ^^^".toList := by
  intro source e
  refine ⟨by decide +kernel, ?_, rfl, by decide +kernel⟩
  rw [diagnostics_eq_filterMap]
  decide +kernel

end MonkeyScan
