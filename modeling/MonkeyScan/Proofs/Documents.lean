import MonkeyScan.Proofs.Diagnosis

/-!
# `MonkeyScan.Proofs.Documents`: what an editor is sent

An editor opens documents, changes them and has them looked at, in any order
and any number of them. What it is sent is told here by the notices alone, with
no workspace in between: a notice is answered by the diagnosis of the last text
that the notices up to it gave the document.

* `Workspace.lookup_put`: putting a text in place changes one document.
* `Workspace.lookup_apply`: one notice changes the text of a document to the last
  of the texts it gives it, if it gives any.
* `Workspace.lookup_foldl_apply`: the same of any number of notices.
* `Workspace.handleAll_sends_diagnosis`: what is sent.
-/

set_option autoImplicit false

namespace MonkeyScan

/-! ### Texts of documents by the notices -/

namespace Notice

/-- The texts that a notice gives a document, one after another. -/
def texts (uri : Text) : Notice → List Text
  | .opened other text => if uri = other then [text] else []
  | .changed other texts => if uri = other then texts else []
  | .validate _ => []

/-- The document that a notice opens, if it opens one. -/
def opened? : Notice → Option Text
  | .opened uri _ => some uri
  | _ => none

/-- The last text that some notices gave a document. -/
def lastText? (history : List Notice) (uri : Text) : Option Text :=
  (history.flatMap (texts uri)).getLast?

/-- Whether every document is opened before another notice is about it. -/
def OpenedFirst (notices : List Notice) : Prop :=
  ∀ i (_ : i < notices.length),
    (notices[i]).uri ∈ (notices.take (i + 1)).filterMap opened?

instance (notices : List Notice) : Decidable (OpenedFirst notices) :=
  inferInstanceAs (Decidable (∀ i (_ : i < notices.length), _ ∈ _))

/-- What was opened has a text. -/
theorem exists_lastText? {history : List Notice} {uri : Text}
    (h : uri ∈ history.filterMap opened?) : ∃ text, lastText? history uri = some text := by
  obtain ⟨n, hn, hopened⟩ := List.mem_filterMap.mp h
  cases n with
  | opened other text =>
      obtain rfl : other = uri := Option.some.inj hopened
      have hmem : text ∈ history.flatMap (texts other) := by
        refine List.mem_flatMap.mpr ⟨_, hn, ?_⟩
        simp [texts]
      exact ⟨_, List.getLast?_eq_some_getLast (List.ne_nil_of_mem hmem)⟩
  | changed => exact nomatch hopened
  | validate => exact nomatch hopened

end Notice

/-! ### Texts of documents in the workspace -/

namespace Workspace

variable (w : Workspace) (uri : Text)

/-- A document has the text that was put in place, and no other document has
changed. -/
theorem lookup_put (other text : Text) :
    (w.put other text).documents.lookup uri
      = if uri = other then some text else w.documents.lookup uri :=
  lookup_cons_filter other uri text w.documents

/-- A document has the last of the texts that were put in place for it, and no other
document has changed. -/
theorem lookup_foldl_put (other : Text) (texts : List Text) :
    (texts.foldl (fun w text => w.put other text) w).documents.lookup uri
      = if uri = other then texts.getLast?.or (w.documents.lookup uri)
        else w.documents.lookup uri := by
  induction texts generalizing w with
  | nil => simp
  | cons text more ih =>
      rw [List.foldl_cons, ih, lookup_put]
      by_cases h : uri = other
      · simp [h, List.getLast?_cons]
      · simp [h]

/-- After a notice a document has the last text that the notice gave it, or else the
one it had. -/
theorem lookup_apply (n : Notice) :
    (w.apply n).documents.lookup uri
      = (n.texts uri).getLast?.or (w.documents.lookup uri) := by
  cases n with
  | opened other text =>
      rw [apply, lookup_put, Notice.texts]
      split <;> simp
  | changed other texts =>
      rw [apply, lookup_foldl_put, Notice.texts]
      split <;> simp
  | validate other => simp [apply, Notice.texts]

/-- After some notices a document has the last text that they gave it, or else the
one it had. -/
theorem lookup_foldl_apply (notices : List Notice) :
    (notices.foldl apply w).documents.lookup uri
      = (Notice.lastText? notices uri).or (w.documents.lookup uri) := by
  induction notices generalizing w with
  | nil => simp [Notice.lastText?]
  | cons n more ih =>
      rw [Notice.lastText?] at ih ⊢
      rw [List.foldl_cons, ih, lookup_apply, List.flatMap_cons, List.getLast?_append,
        Option.or_assoc]

/-! ### What is sent -/

/-- Every notice is answered. -/
theorem length_handleAll (notices : List Notice) :
    (w.handleAll notices).length = notices.length := by
  induction notices generalizing w with
  | nil => rfl
  | cons n more ih => simp [handleAll, handle, ih]

/-- A notice is answered from the workspace after it and those before it. -/
theorem getElem?_handleAll {notices : List Notice} {i : Nat} (hi : i < notices.length) :
    (w.handleAll notices)[i]?
      = some [⟨(notices[i]).uri,
          diagnostics (((notices.take (i + 1)).foldl apply w).text (notices[i]).uri)⟩] := by
  induction notices generalizing w i with
  | nil => exact absurd hi (Nat.not_lt_zero i)
  | cons n more ih =>
      cases i with
      | zero => rfl
      | succ i => exact ih (w.apply n) (Nat.lt_of_succ_lt_succ hi)

/-- Where documents are opened first, each notice is answered by exactly one list of
diagnostics. It is for the document of the notice, and it is the diagnosis of the
last text that the notices up to this one gave the document. -/
theorem handleAll_sends_diagnosis (notices : List Notice) (h : Notice.OpenedFirst notices) :
    (empty.handleAll notices).length = notices.length ∧
    ∀ i (hi : i < notices.length), ∃ text,
      Notice.lastText? (notices.take (i + 1)) (notices[i]).uri = some text ∧
      (empty.handleAll notices)[i]? = some [⟨(notices[i]).uri, diagnostics text⟩] ∧
      Diagnosis text (diagnostics text) := by
  refine ⟨length_handleAll empty notices, ?_⟩
  intro i hi
  obtain ⟨text, htext⟩ := Notice.exists_lastText? (h i hi)
  refine ⟨text, htext, ?_, diagnosis_diagnostics text⟩
  have hpresent : ((notices.take (i + 1)).foldl apply empty).text (notices[i]).uri = text := by
    rw [Workspace.text, lookup_foldl_apply, htext]
    rfl
  rw [getElem?_handleAll empty hi, hpresent]

/-- Two documents, one of which is changed twice by one notice. Its string goes on
below the line that the range is on. -/
theorem handleAll_sends_diagnosis_two_documents :
    let first : Text := "first.monkey".toList
    let second : Text := "second.monkey".toList
    let notices : List Notice := [.opened first "\"".toList, .opened second "1".toList,
      .changed first ["?".toList, "a\n@ \"b\nc".toList], .validate second, .validate first]
    let unended : Text := "input ended before closing quote of string".toList
    let later : List Diagnostic := [⟨⟨1, 0, 1, 1⟩, .warning, "illegal character '@'".toList⟩,
      ⟨⟨1, 2, 1, 4⟩, .error, unended⟩]
    Notice.OpenedFirst notices ∧
    empty.handleAll notices = [[⟨first, [⟨⟨0, 0, 0, 1⟩, .error, unended⟩]⟩], [⟨second, []⟩],
      [⟨first, later⟩], [⟨second, []⟩], [⟨first, later⟩]] ∧
    ∃ text, Notice.lastText? notices first = some text ∧
      (empty.handleAll notices)[4]? = some [⟨first, diagnostics text⟩] ∧
      Diagnosis text (diagnostics text) := by
  intro first second notices unended later
  have hopened : Notice.OpenedFirst notices := by decide
  refine ⟨hopened, ?_, (handleAll_sends_diagnosis notices hopened).2 4 (by decide)⟩
  -- Sorting does not evaluate, but the diagnostics of the items do.
  simp only [notices, handleAll, handle, diagnostics_eq_filterMap]
  decide +kernel

end Workspace

end MonkeyScan
