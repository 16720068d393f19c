import MonkeyScan.Toml.Limit

/-!
# `MonkeyScan.Toml.Fault`: what a configuration file can get wrong

Faults are told apart by their kinds only. The wordings name the kind, and are
not to the letter those of the standard reader of such files, which adds the
line and the column and sometimes the character.
-/

set_option autoImplicit false

namespace MonkeyScan.Toml

/-- Why a text is not a document. -/
inductive Fault where
  | statementExpected
  | keyExpected
  | equalsExpected
  | bracketExpected
  | lineEndExpected
  | commaExpected
  | valueExpected
  | controlCharacter
  | badEscape
  | unterminatedString
  | noSuchDate
  | keyTaken
  /-- The text may be a document, but is not read to its end. -/
  | limit (passed : Limit)
  deriving DecidableEq, Repr

/-- The wording of a fault, without its place. -/
def Fault.message : Fault → Text
  | statementExpected => "Invalid statement".toList
  | keyExpected => "Invalid initial character for a key part".toList
  | equalsExpected => "Expected '=' after a key in a key/value pair".toList
  | bracketExpected => "Expected a closing bracket at the end of a table declaration".toList
  | lineEndExpected => "Expected newline or end of document after a statement".toList
  | commaExpected => "Expected a comma or a closing bracket after an item".toList
  | valueExpected => "Invalid value".toList
  | controlCharacter => "Found invalid character".toList
  | badEscape => "Invalid escape in a string".toList
  | unterminatedString => "Unterminated string".toList
  | noSuchDate => "Invalid date or datetime".toList
  | keyTaken => "Cannot overwrite a value".toList
  | limit passed => passed.message

end MonkeyScan.Toml
