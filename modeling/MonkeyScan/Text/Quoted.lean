import MonkeyScan.Text.Hex
import MonkeyScan.Text.Printable

/-!
# `MonkeyScan.Text.Quoted`: quoted text

A text is shown between quotes on one line. The quote is `'`, or `"` where
the text holds a `'` and no `"`. The quote in use, the backslash and every
character that is not printable are escaped, so that a quoted text holds no
line break of any kind.
-/

set_option autoImplicit false

namespace MonkeyScan.Text

/-- The quote that is put around `t`. -/
def quoteFor (t : Text) : Char :=
  if t.contains '\'' && !t.contains '"' then '"' else '\''

/-- The written form of one character between quotes `quote`: the short escape
where there is one, the character itself where it is printable, and else the
shortest of the three numeric escapes that can hold its code point. -/
def escapeIn (quote : Char) (c : Char) : Text :=
  if c = quote ∨ c = '\\' then ['\\', c]
  else if c = '\n' then ['\\', 'n']
  else if c = '\r' then ['\\', 'r']
  else if c = '\t' then ['\\', 't']
  else if isPrintable c then [c]
  else if c.toNat < 0x100 then '\\' :: 'x' :: hexDigits 2 c.toNat
  else if c.toNat < 0x10000 then '\\' :: 'u' :: hexDigits 4 c.toNat
  else '\\' :: 'U' :: hexDigits 8 c.toNat

/-- `t` between quotes, with escapes. -/
def quoted (t : Text) : Text :=
  let quote := quoteFor t
  quote :: t.flatMap (escapeIn quote) ++ [quote]

end MonkeyScan.Text
