import MonkeyScan.Program
import MonkeyScan.Proofs.Diagnosis
import MonkeyScan.Proofs.Newline
import MonkeyScan.Proofs.Utf8

/-!
# `MonkeyScan.Proofs.Places`: the places of a file and of a document

A text can be read from a file by the program, which goes on after errors and lists all
tokens, or be shown in an editor, which marks errors and illegal characters. Both name
lines and columns, but the program turns carriage returns into line feeds before it
looks, and the editor does not.

Errors and illegal characters are the same in both, with the same messages. A place is
the same if and only if no carriage return stands alone before it: alone, a carriage
return ends a line of the file and ends no line of the document.

* `Item.place_turned`: the place of one item.
* `renderFile_places`: the places in all of a file and of a document.
* `renderFile_places_behind_lone_return`: they differ behind a carriage return that
  stands alone.
-/

set_option autoImplicit false

namespace MonkeyScan

open Scan

/-! ### Places -/

/-- Line and column of a position, both from one. -/
def Position.place (p : Position) : Int × Int :=
  (p.line, p.column)

/-- Line and column at which a range starts, both from one. -/
def Range.place (r : Range) : Int × Int :=
  (r.startLine + 1, r.startCharacter + 1)

/-- The text in front of a range. -/
def Range.before (t : Text) (r : Range) : Text :=
  t.take (t.lineStart r.startLine.toNat + r.startCharacter.toNat)

/-- Line and column of a listed token, both from one. -/
def Listing.Entry.place (e : Listing.Entry) : Int × Int :=
  (e.line, e.column)

/-- The diagnostics of a text that are of one severity. -/
def diagnosticsOf (severity : Severity) (t : Text) : List Diagnostic :=
  (diagnostics t).filter fun d => d.severity = severity

/-- The listed tokens that are illegal characters. -/
def Listing.illegal (entries : List Listing.Entry) : List Listing.Entry :=
  entries.filter fun e => e.kind = .illegal

/-- The kind of a token stays when the text is turned. -/
theorem Scan.Outcome.exists_turned_token (kind : Kind) (value : Option Value) :
    ∃ turned, (Outcome.token kind value).unifyNewlines = .token kind turned := by
  unfold unifyNewlines
  split
  next content hstring =>
    obtain ⟨rfl, -⟩ := Outcome.token.inj hstring
    exact ⟨_, rfl⟩
  next => exact ⟨value, rfl⟩

/-- What is said of a fault stays when the text is turned: digits at most are quoted. -/
theorem Front.message_turned {m rest : Text} {kind : FaultKind}
    (h : Front (m ++ rest) m (.fault kind)) :
    kind.message (Text.unifyNewlines m) = kind.message m := by
  cases kind with
  | unterminatedString => rfl
  | malformedInteger =>
      generalize m ++ rest = t at h
      cases h with
      | lexeme longest denotes =>
          cases denotes with
          | malformed first =>
              rw [longest.lexeme.unifyNewlines_eq]
              rintro ⟨⟩
              exact absurd first (by decide)

namespace Item

variable {t : Text} {i : Item}

/-- The text before an item is safely parted from it. -/
theorem unparted_of_mem (hi : i ∈ items t) :
    Text.Unparted (t.take i.start) (t.drop i.start) := by
  obtain ⟨-, rest, hdrop, hfront⟩ := front_of_mem hi
  obtain ⟨c, more, hlexeme, ink⟩ := hfront.exists_head
  rw [hdrop, hlexeme]
  exact Text.Unparted.of_ink ink

/-- The text before an item is turned into the text before the turned item. -/
theorem take_turned (hi : i ∈ items t) :
    (Text.unifyNewlines t).take (i.unifyNewlines t).start
      = Text.unifyNewlines (t.take i.start) := by
  have happend := Text.unifyNewlines_append (unparted_of_mem hi)
  rw [List.take_append_drop] at happend
  rw [happend]
  exact List.take_left

/-- The text in front of the range of an item is the text before the item. -/
theorem before_range (hi : i ∈ items t) : (i.range t).before t = t.take i.start := by
  obtain ⟨hstop, -⟩ := front_of_mem hi
  rw [stop] at hstop
  rw [range, Range.ofPosition_ofText (by omega)]
  show t.take (t.lineStart (t.lineOf i.start) + t.columnOf i.start) = _
  rw [Text.lineStart_add_columnOf (by omega)]

/-- The place of an item stays if and only if no carriage return stands alone before
it. -/
theorem place_turned (hi : i ∈ items t) :
    ((LineIndex.ofText (Text.unifyNewlines t)).position (i.unifyNewlines t).start).place
        = (i.range t).place ↔
      Text.loneReturns ((i.range t).before t) = 0 := by
  obtain ⟨hstop, -⟩ := front_of_mem hi
  rw [stop] at hstop
  have hle : (i.unifyNewlines t).start ≤ (Text.unifyNewlines t).length := by
    have hprefix := List.take_prefix (i.unifyNewlines t).start (Text.unifyNewlines t)
    rw [take_turned hi] at hprefix
    exact hprefix.length_le
  have hline := Text.count_unifyNewlines (t.take i.start)
  have hcolumn := Text.lastLine_unifyNewlines (t := t.take i.start)
  rw [before_range hi, range, Range.ofPosition_ofText (by omega), LineIndex.position_ofText hle]
  simp only [Position.place, Range.place, Text.lineOf, Text.columnOf, take_turned hi,
    Prod.mk.injEq]
  constructor
  · rintro ⟨hlines, -⟩
    omega
  · intro hlone
    rw [hcolumn hlone]
    omega

/-- What becomes of an item in the file and in the document: an error and a diagnostic of
an error with the same message, an illegal character and a warning, or another token and
no diagnostic. -/
theorem turned_cases (hi : i ∈ items t) (filename : Text) :
    let u := Text.unifyNewlines t
    let j := i.unifyNewlines t
    (∃ e d, j.error? u filename (LineIndex.ofText u) = some e ∧ j.token? = none ∧
      i.diagnostic? t = some d ∧ d.severity = .error ∧ e.message = d.message ∧
      e.position = (LineIndex.ofText u).position j.start ∧ d.range = i.range t) ∨
    (∃ k d, j.error? u filename (LineIndex.ofText u) = none ∧ j.token? = some k ∧
      i.diagnostic? t = some d ∧ d.severity = .warning ∧ k.kind = .illegal ∧
      k.offset = j.start ∧ d.range = i.range t) ∨
    (∃ k, j.error? u filename (LineIndex.ofText u) = none ∧ j.token? = some k ∧
      i.diagnostic? t = none ∧ k.kind ≠ .illegal) := by
  intro u j
  obtain ⟨-, rest, -, hfront⟩ := front_of_mem hi
  have hcases := diagnostic_cases hi filename
  obtain ⟨start, lexeme, outcome⟩ := i
  cases outcome with
  | fault kind =>
      obtain ⟨hnot, -⟩ | ⟨-, d, hd, htells, hrange⟩ := hcases
      · exact nomatch hnot
      cases htells with
      | error covers =>
          exact Or.inl ⟨_, _, rfl, rfl, hd, rfl, hfront.message_turned, rfl, hrange⟩
  | token kind value =>
      obtain ⟨turned, hturned⟩ := Outcome.exists_turned_token kind value
      have hj : j = ⟨j.start, j.lexeme, .token kind turned⟩ := by rw [← hturned]; rfl
      rw [hj]
      obtain ⟨hplain, hd⟩ | ⟨-, d, hd, htells, hrange⟩ := hcases
      · exact Or.inr (Or.inr ⟨_, rfl, rfl, hd, beq_eq_false_iff_ne.mp hplain⟩)
      · generalize hevent : Item.event t filename ⟨start, lexeme, .token kind value⟩ = x at htells
        cases htells with
        | error => exact nomatch hevent
        | illegal covers =>
            injection hevent with htoken
            injection htoken with hkind
            exact Or.inr (Or.inl ⟨_, _, rfl, rfl, hd, rfl, hkind, rfl, hrange⟩)

end Item

/-! ### All places -/

section
variable (t filename : Text)

/-- The diagnostics of one severity are those of the items that have it. -/
theorem diagnosticsOf_eq (severity : Severity) :
    diagnosticsOf severity t
      = (items t).filterMap fun i => (i.diagnostic? t).filter fun d => d.severity = severity := by
  rw [diagnosticsOf, diagnostics_eq_filterMap, List.filter_filterMap]

/-- The errors of the turned text go one by one with the diagnostics of errors. -/
theorem forall₂_errors_diagnostics :
    List.Forall₂ (fun (e : ScanError) (d : Diagnostic) => e.message = d.message ∧
        (e.position.place = d.range.place ↔ Text.loneReturns (d.range.before t) = 0))
      (tokenizeAll (Text.unifyNewlines t) filename).2 (diagnosticsOf .error t) := by
  show List.Forall₂ _ ((items (Text.unifyNewlines t)).filterMap _) _
  rw [items_unifyNewlines, List.filterMap_map, diagnosticsOf_eq]
  refine forall₂_filterMap fun i hi => ?_
  rcases Item.turned_cases hi filename with
    ⟨e, d, he, -, hd, hseverity, hmessage, hposition, hrange⟩ |
    ⟨k, d, he, -, hd, hseverity, -⟩ | ⟨k, he, -, hd, -⟩
  · refine Or.inr ⟨e, d, he, by simp [hd, hseverity], hmessage, ?_⟩
    rw [hposition, hrange]
    exact Item.place_turned hi
  · exact Or.inl ⟨he, by simp [hd, hseverity]⟩
  · exact Or.inl ⟨he, by simp [hd]⟩

/-- The illegal characters in the listing of the turned text go one by one with the
warnings. -/
theorem forall₂_illegal_diagnostics :
    List.Forall₂ (fun (e : Listing.Entry) (d : Diagnostic) =>
        e.place = d.range.place ↔ Text.loneReturns (d.range.before t) = 0)
      (Listing.illegal (Listing.entries (tokenizeAll (Text.unifyNewlines t) filename).1
        (Text.unifyNewlines t)))
      (diagnosticsOf .warning t) := by
  show List.Forall₂ _ (Listing.illegal (List.map _
    ((items (Text.unifyNewlines t)).filterMap Item.token?
      ++ [endToken (Text.unifyNewlines t)]))) _
  rw [items_unifyNewlines, List.filterMap_map, diagnosticsOf_eq, Listing.illegal, List.map_append,
    List.filter_append, List.map_filterMap, List.filter_filterMap,
    show List.filter _ (List.map _ [endToken (Text.unifyNewlines t)]) = [] from rfl,
    List.append_nil]
  refine forall₂_filterMap fun i hi => ?_
  rcases Item.turned_cases hi filename with
    ⟨e, d, -, htoken, hd, hseverity, -⟩ |
    ⟨k, d, -, htoken, hd, hseverity, hkind, hoffset, hrange⟩ | ⟨k, -, htoken, hd, hkind⟩
  · exact Or.inl ⟨by simp [htoken], by simp [hd, hseverity]⟩
  · refine Or.inr ⟨Listing.entry (LineIndex.ofText (Text.unifyNewlines t)) k, d, ?_,
      by simp [hd, hseverity], ?_⟩
    · simp [htoken, Listing.entry, hkind]
    · rw [hrange, ← Item.place_turned hi, ← hoffset]
      rfl
  · exact Or.inl ⟨by simp [htoken, Listing.entry, hkind], by simp [hd]⟩

end

/-- A file that holds a text is rendered from the turned text. -/
theorem renderFile_of_file {look : Lookup} {options : Options} {t : Text}
    (hfile : look options.input = .ok (.file (Text.Utf8.encode t)))
    (hgo : options.keepGoing = true) :
    renderFile look options =
      .ok (Listing.render (tokenizeAll (Text.unifyNewlines t) options.input.toText).1
          (Text.unifyNewlines t) (options.format.getD .text),
        (tokenizeAll (Text.unifyNewlines t) options.input.toText).2) := by
  have hread : look.readText options.input = .ok t := by
    simp only [Lookup.readText, Lookup.read, hfile, Text.Utf8.decode_encode]
  simp only [renderFile, hread, hgo, if_true]

/-- A text is read from a file, where the program goes on after errors, and is shown in
an editor. Errors have the same messages. They have the same places if and only if no
carriage return stands alone before one of them, and so have the illegal characters. -/
theorem renderFile_places (look : Lookup) (options : Options) (t : Text)
    (hfile : look options.input = .ok (.file (Text.Utf8.encode t)))
    (hgo : options.keepGoing = true) :
    ∃ tokens errors,
      renderFile look options = .ok (Listing.render tokens (Text.unifyNewlines t)
        (options.format.getD .text), errors) ∧
      errors.map ScanError.message = (diagnosticsOf .error t).map Diagnostic.message ∧
      (errors.map (fun e => e.position.place)
          = (diagnosticsOf .error t).map (fun d => d.range.place) ↔
        ∀ d ∈ diagnosticsOf .error t, Text.loneReturns (d.range.before t) = 0) ∧
      ((Listing.illegal (Listing.entries tokens (Text.unifyNewlines t))).map Listing.Entry.place
          = (diagnosticsOf .warning t).map (fun d => d.range.place) ↔
        ∀ d ∈ diagnosticsOf .warning t, Text.loneReturns (d.range.before t) = 0) := by
  have herrors := forall₂_errors_diagnostics t options.input.toText
  have hillegal := forall₂_illegal_diagnostics t options.input.toText
  refine ⟨_, _, renderFile_of_file hfile hgo, ?_, ?_, ?_⟩
  · exact (map_eq_map_iff_of_forall₂ (herrors.imp fun _ _ h => iff_true_intro h.1)).mpr
      fun _ _ => trivial
  · exact map_eq_map_iff_of_forall₂ (herrors.imp fun _ _ h => h.2)
  · exact map_eq_map_iff_of_forall₂ hillegal

/-- Carriage returns before line feeds, in a string too, move no place. -/
theorem renderFile_places_in_pairs :
    let t := "x\r\n\"a\r\n\" @\r\n 99999999999 \"".toList
    let look : Lookup := fun _ => .ok (.file (Text.Utf8.encode t))
    let options : Options := ⟨⟨.here, [['a']]⟩, none, some .json, true⟩
    look options.input = .ok (.file (Text.Utf8.encode t)) ∧ options.keepGoing = true ∧
    ∃ tokens errors,
      renderFile look options = .ok (Listing.render tokens (Text.unifyNewlines t) .json, errors) ∧
      errors.map ScanError.message = (diagnosticsOf .error t).map Diagnostic.message ∧
      errors.map (fun e => e.position.place) = [(4, 2), (4, 14)] ∧
      (diagnosticsOf .error t).map (fun d => d.range.place) = [(4, 2), (4, 14)] ∧
      (Listing.illegal (Listing.entries tokens (Text.unifyNewlines t))).map Listing.Entry.place
        = [(3, 3)] ∧
      (diagnosticsOf .warning t).map (fun d => d.range.place) = [(3, 3)] := by
  intro t look options
  have herrors : (diagnosticsOf .error t).map (fun d => d.range.place) = [(4, 2), (4, 14)] := by
    simp only [t, diagnosticsOf_eq]
    decide +kernel
  have hwarnings : (diagnosticsOf .warning t).map (fun d => d.range.place) = [(3, 3)] := by
    simp only [t, diagnosticsOf_eq]
    decide +kernel
  obtain ⟨tokens, errors, hrender, hmessages, hplaces, hillegal⟩ :=
    renderFile_places look options t rfl rfl
  refine ⟨rfl, rfl, tokens, errors, hrender, hmessages, ?_, herrors, ?_, hwarnings⟩
  · rw [← herrors]
    refine hplaces.mpr ?_
    simp only [t, diagnosticsOf_eq]
    decide +kernel
  · rw [← hwarnings]
    refine hillegal.mpr ?_
    simp only [t, diagnosticsOf_eq]
    decide +kernel

/-- A carriage return that stands alone ends a line of the file and none of the
document. So what stands behind it is on the second line of the one and on the first of
the other. -/
theorem renderFile_places_behind_lone_return :
    let t := "\r99999999999 @".toList
    let look : Lookup := fun _ => .ok (.file (Text.Utf8.encode t))
    let options : Options := ⟨⟨.here, [['a']]⟩, none, some .text, true⟩
    ∃ tokens errors,
      renderFile look options = .ok (Listing.render tokens (Text.unifyNewlines t) .text, errors) ∧
      errors.map (fun e => e.position.place) = [(2, 1)] ∧
      (diagnosticsOf .error t).map (fun d => d.range.place) = [(1, 2)] ∧
      (Listing.illegal (Listing.entries tokens (Text.unifyNewlines t))).map Listing.Entry.place
        = [(2, 13)] ∧
      (diagnosticsOf .warning t).map (fun d => d.range.place) = [(1, 14)] := by
  intro t look options
  refine ⟨_, _, renderFile_of_file rfl rfl, ?_⟩
  simp only [t, diagnosticsOf_eq]
  decide +kernel

end MonkeyScan
