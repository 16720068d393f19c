import MonkeyScan.Text.Basic

/-!
# `MonkeyScan.Text.Hex`: hexadecimal numerals

Escapes write code points with a fixed number of lower-case hexadecimal
digits and read them in either case.
-/

set_option autoImplicit false

namespace MonkeyScan.Text

/-- The last `width` hexadecimal digits of `n`, most significant first. -/
def hexDigits : (width : Nat) → (n : Nat) → Text
  | 0, _ => []
  | width + 1, n => hexDigits width (n / 16) ++ [Nat.digitChar (n % 16)]

/-- The value of one hexadecimal digit, in either case. -/
def hexValue? (c : Char) : Option Nat :=
  if '0' ≤ c ∧ c ≤ '9' then some (c.toNat - '0'.toNat)
  else if 'a' ≤ c ∧ c ≤ 'f' then some (c.toNat - 'a'.toNat + 10)
  else if 'A' ≤ c ∧ c ≤ 'F' then some (c.toNat - 'A'.toNat + 10)
  else none

/-- The value of a run of hexadecimal digits; `none` if another character is
among them. -/
def hexNat? (digits : Text) : Option Nat :=
  digits.foldl (fun n c => do pure (16 * (← n) + (← hexValue? c))) (some 0)

end MonkeyScan.Text
