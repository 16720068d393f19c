import MonkeyScan.Json.Basic
import MonkeyScan.Text.Hex

/-!
# `MonkeyScan.Json.Printer`: JSON text with one item a line

Values are written in ASCII. Arrays and objects put each item on a line of
its own, two blanks deeper than the bracket; an empty one is written without
a line break.
-/

set_option autoImplicit false

namespace MonkeyScan.Json

/-! ### Strings -/

/-- The UTF-16 code units of a character: one, or a surrogate pair beyond the
basic plane. -/
def units16 (c : Char) : List Nat :=
  let n := c.toNat
  if n < 0x10000 then [n]
  else [0xd800 + (n - 0x10000) / 0x400, 0xdc00 + (n - 0x10000) % 0x400]

/-- The written form of one character: a short escape where there is one,
itself if it is printable ASCII, and else the escapes of its code units. -/
def escape (c : Char) : Text :=
  if c = '"' ∨ c = '\\' then ['\\', c]
  else if c = '\n' then ['\\', 'n']
  else if c = '\r' then ['\\', 'r']
  else if c = '\t' then ['\\', 't']
  else if c.toNat = 0x0c then ['\\', 'f']
  else if c.toNat = 0x08 then ['\\', 'b']
  else if 0x20 ≤ c.toNat ∧ c.toNat ≤ 0x7e then [c]
  else (units16 c).flatMap fun unit => '\\' :: 'u' :: Text.hexDigits 4 unit

/-- A string between quotes. -/
def quotedString (t : Text) : Text :=
  '"' :: t.flatMap escape ++ ['"']

/-! ### Values -/

/-- A line break and the indentation of a depth. -/
def newline (depth : Nat) : Text :=
  '\n' :: List.replicate (2 * depth) ' '

mutual

/-- A value that starts at a depth. -/
def pretty (depth : Nat) : Json → Text
  | null => ['n', 'u', 'l', 'l']
  | bool true => ['t', 'r', 'u', 'e']
  | bool false => ['f', 'a', 'l', 's', 'e']
  | number n => Text.ofInt n
  | string t => quotedString t
  | array [] => ['[', ']']
  | array (item :: items) =>
    '[' :: newline (depth + 1) ++ pretty (depth + 1) item ++ prettyItems (depth + 1) items
      ++ newline depth ++ [']']
  | object [] => ['{', '}']
  | object ((key, value) :: fields) =>
    '{' :: newline (depth + 1) ++ quotedString key ++ [':', ' '] ++ pretty (depth + 1) value
      ++ prettyFields (depth + 1) fields ++ newline depth ++ ['}']

/-- The items after the first, each behind a comma. -/
def prettyItems (depth : Nat) : List Json → Text
  | [] => []
  | item :: items => ',' :: newline depth ++ pretty depth item ++ prettyItems depth items

/-- The fields after the first, each behind a comma. -/
def prettyFields (depth : Nat) : List (Text × Json) → Text
  | [] => []
  | (key, value) :: fields =>
    ',' :: newline depth ++ quotedString key ++ [':', ' '] ++ pretty depth value
      ++ prettyFields depth fields

end

end MonkeyScan.Json
