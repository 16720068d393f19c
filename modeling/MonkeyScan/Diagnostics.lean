import MonkeyScan.Tokenize

/-!
# `MonkeyScan.Diagnostics`: an editor's view of a source

An editor keeps documents and asks for the diagnostics of one after each
change. A diagnostic marks a range on one line: an error for each fault, a
warning for each illegal character. Ranges count lines and characters from
zero, and characters are Unicode characters.
-/

set_option autoImplicit false

namespace MonkeyScan

/-- A range from a start up to, not including, an end, both counted from
zero. -/
structure Range where
  startLine : Int
  startCharacter : Int
  endLine : Int
  endCharacter : Int
  deriving DecidableEq, Repr

/-- The range of `length` characters on the line of a position. -/
def Range.ofPosition (p : Position) (length : Nat) : Range :=
  ⟨p.line - 1, p.column - 1, p.line - 1, p.column - 1 + length⟩

/-- How grave a diagnostic is. -/
inductive Severity where
  | error
  | warning
  deriving DecidableEq, Repr

/-- The number of a severity, from one for the gravest. -/
def Severity.number : Severity → Nat
  | error => 1
  | warning => 2

/-- A remark on a range of a document. -/
structure Diagnostic where
  range : Range
  severity : Severity
  message : Text
  deriving DecidableEq, Repr

namespace Diagnostic

/-- The name under which diagnostics are published. -/
def publisher : Text :=
  "monkeylex".toList

/-- The diagnostic of a fault. It marks the offending text up to its first
line feed, and one character at least. -/
def ofError (e : ScanError) : Diagnostic :=
  ⟨Range.ofPosition e.position (max 1 (e.text.takeWhile (· != '\n')).length), .error, e.message⟩

/-- The diagnostic of a token in an indexed source, if the token is an illegal
character. -/
def ofToken? (index : LineIndex) (t : Token) : Option Diagnostic :=
  match t.kind, t.value with
  | .illegal, some v =>
    some ⟨Range.ofPosition (index.position t.offset) 1, .warning,
      "illegal character ".toList ++ v.shown⟩
  | _, _ => none

/-- Whether a diagnostic starts no later than another. -/
def startsBy (a b : Diagnostic) : Bool :=
  a.range.startLine < b.range.startLine ||
    (a.range.startLine == b.range.startLine && a.range.startCharacter ≤ b.range.startCharacter)

end Diagnostic

/-- The diagnostics of a text, in the order of their starts. The text is read
without a name: an editor has the last part of an identifier for it, and the
name of a text is in none of its diagnostics. -/
def diagnostics (source : Text) : List Diagnostic :=
  let (tokens, errors) := tokenizeAll source []
  let index := LineIndex.ofText source
  (errors.map Diagnostic.ofError ++ tokens.filterMap (Diagnostic.ofToken? index)).mergeSort
    Diagnostic.startsBy

/-! ### Documents -/

/-- The open documents of an editor: each identifier with its present text. -/
structure Workspace where
  documents : List (Text × Text)
  deriving DecidableEq, Repr

namespace Workspace

/-- The workspace without documents. -/
def empty : Workspace :=
  ⟨[]⟩

/-- The present text of a document, which is empty if it was never opened. -/
def text (w : Workspace) (uri : Text) : Text :=
  (w.documents.lookup uri).getD []

/-- Puts a text in place of the one a document had. -/
def put (w : Workspace) (uri text : Text) : Workspace :=
  ⟨(uri, text) :: w.documents.filter fun document => document.1 != uri⟩

end Workspace

/-- What an editor tells: a document is opened with a text, has been changed
to each of some texts in turn, or is to be looked at again. -/
inductive Notice where
  | opened (uri text : Text)
  | changed (uri : Text) (texts : List Text)
  | validate (uri : Text)
  deriving DecidableEq, Repr

/-- The document a notice is about. -/
def Notice.uri : Notice → Text
  | .opened uri _ => uri
  | .changed uri _ => uri
  | .validate uri => uri

/-- The diagnostics of one document, as they are sent to the editor. -/
structure Publication where
  uri : Text
  diagnostics : List Diagnostic
  deriving DecidableEq, Repr

namespace Workspace

/-- The workspace after a notice. -/
def apply (w : Workspace) : Notice → Workspace
  | .opened uri text => w.put uri text
  | .changed uri texts => texts.foldl (fun w text => w.put uri text) w
  | .validate _ => w

/-- Takes a notice and publishes the diagnostics of its document. -/
def handle (w : Workspace) (n : Notice) : List Publication × Workspace :=
  let after := w.apply n
  ([⟨n.uri, diagnostics (after.text n.uri)⟩], after)

/-- Takes notices in turn: what each of them publishes. -/
def handleAll (w : Workspace) : List Notice → List (List Publication)
  | [] => []
  | n :: more =>
    let (published, after) := w.handle n
    published :: after.handleAll more

end Workspace

end MonkeyScan
