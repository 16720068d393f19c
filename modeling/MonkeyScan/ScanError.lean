import MonkeyScan.Position

/-!
# `MonkeyScan.ScanError`: input that is no token

Two things can be wrong with a token that has begun: a string may lack its
closing quote, and an integer may be too large. An error keeps the source it
arose in, so that it can be reported with the row it points at.
-/

set_option autoImplicit false

namespace MonkeyScan

/-- What is wrong. -/
inductive FaultKind where
  | unterminatedString
  | malformedInteger
  deriving DecidableEq, Repr

namespace FaultKind

/-- All faults, in order. -/
def all : List FaultKind :=
  [unterminatedString, malformedInteger]

/-- The identifier of a fault. -/
def name : FaultKind → String
  | unterminatedString => "unterminated-string"
  | malformedInteger => "malformed-integer"

/-- The fault of an identifier. -/
def ofName? (name : String) : Option FaultKind :=
  all.find? fun k => k.name == name

/-- What is said of the offending text. -/
def message (k : FaultKind) (lexeme : Text) : Text :=
  match k with
  | unterminatedString => "input ended before closing quote of string".toList
  | malformedInteger =>
    "integer literal '".toList ++ lexeme
      ++ "' does not fit in a 32-bit signed integer".toList

end FaultKind

/-- The name that a source has when none is given. -/
def defaultFilename : Text :=
  "input.monkey".toList

/-- A fault in a source: what is said of it, where it starts, the offending
text, and the source with its name. -/
structure ScanError where
  kind : FaultKind
  message : Text
  position : Position
  text : Text
  source : Text
  filename : Text
  deriving DecidableEq, Repr

namespace ScanError

/-! ### Reports -/

/-- The row of the source that a report shows, empty if there is none. Rows
end at any line break. -/
def shownRow (e : ScanError) : Text :=
  if 0 ≤ e.position.line - 1 then
    Text.stripEnding ((Text.rows e.source)[(e.position.line - 1).toNat]?.getD [])
  else []

/-- The number of carets under the row: the length of the offending text, as
far as the row goes, and at least one. -/
def caretCount (e : ScanError) : Nat :=
  (max 1 (min (e.text.length : Int) (e.shownRow.length - e.position.column + 1))).toNat

/-- The five rows of a report. A gutter as wide as the line number stands on
the left, so that the bars are in one column. -/
def reportRows (e : ScanError) (filename : Text) : List Text :=
  let line := Text.ofInt e.position.line
  let column := Text.ofInt e.position.column
  let gutter := Text.repeated ' ' (line.length + 1)
  let indent := Text.repeated ' ' (e.position.column - 1)
  [ "error: ".toList ++ e.message,
    gutter ++ "--> ".toList ++ filename ++ [':'] ++ line ++ [':'] ++ column,
    gutter ++ ['|'],
    line ++ " | ".toList ++ e.shownRow,
    gutter ++ "| ".toList ++ indent ++ Text.repeated '^' e.caretCount ]

/-- The report of an error under a name of its source. -/
def reportAs (e : ScanError) (filename : Text) : Text :=
  ['\n'].intercalate (e.reportRows filename)

/-- The report of an error under the name that its source has. -/
def report (e : ScanError) : Text :=
  e.reportAs e.filename

end ScanError

end MonkeyScan
