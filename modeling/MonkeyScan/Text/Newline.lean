import MonkeyScan.Text.Basic

/-!
# `MonkeyScan.Text.Newline`: line endings of files

A source file may end its lines in any of the three customary ways and is
read with line feeds only. A configuration file has line feeds, each with or
without a carriage return before it; other carriage returns stay.
-/

set_option autoImplicit false

namespace MonkeyScan.Text

/-- Turns a carriage return and line feed, and a carriage return that stands
alone, into a line feed. -/
def unifyNewlines : Text → Text
  | [] => []
  | '\r' :: '\n' :: rest => '\n' :: unifyNewlines rest
  | c :: rest => (if c = '\r' then '\n' else c) :: unifyNewlines rest

/-- Drops each carriage return that stands before a line feed. -/
def dropReturns : Text → Text
  | [] => []
  | '\r' :: '\n' :: rest => '\n' :: dropReturns rest
  | c :: rest => c :: dropReturns rest

end MonkeyScan.Text
