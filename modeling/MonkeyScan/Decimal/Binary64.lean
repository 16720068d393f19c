import MonkeyScan.Decimal.Fraction
import MonkeyScan.Text.Basic

/-!
# `MonkeyScan.Decimal.Binary64`: floating-point numbers and their numerals

The values of the 64-bit binary format, the value nearest to a decimal
numeral, and the fewest decimal digits that read back as a value. Both
conversions are exact: they compare quotients of natural numbers.
-/

set_option autoImplicit false

namespace MonkeyScan.Decimal

/-- A floating-point number. A finite one is `mantissa * 2 ^ exponent`. -/
inductive Binary64 where
  | nan
  | infinite (negative : Bool)
  | finite (negative : Bool) (mantissa : Nat) (exponent : Int)
  deriving DecidableEq, Repr

namespace Binary64

/-- The exponent of the smallest positive value. -/
def minExponent : Int := -1074

/-- The exponent of the largest finite values. -/
def maxExponent : Int := 971

/-- The smallest mantissa of a number whose exponent is not the least. -/
def hiddenBit : Nat := Nat.pow 2 52

/-! ### Reading -/

/-- The number nearest to a positive quotient; a half goes to the even
mantissa, and what is too large is infinite. -/
def ofFraction (negative : Bool) (value : Fraction) : Binary64 :=
  let guess : Int := Nat.log2 value.num - Nat.log2 value.den
  let top := if (Fraction.scaled 1 2 guess).le value then guess else guess - 1
  let exponent := max (top - 52) minExponent
  let mantissa := (value.div (.scaled 1 2 exponent)).round
  let (mantissa, exponent) :=
    if mantissa = 2 * hiddenBit then (hiddenBit, exponent + 1) else (mantissa, exponent)
  if exponent > maxExponent then infinite negative else finite negative mantissa exponent

/-- The number nearest to `digits * 10 ^ exponent`. -/
def ofDecimal (negative : Bool) (digits : Nat) (exponent : Int) : Binary64 :=
  let magnitude : Int := (Text.ofNat digits).length + exponent
  if digits = 0 ∨ magnitude < -330 then finite negative 0 minExponent
  else if magnitude > 310 then infinite negative
  else ofFraction negative (.scaled digits 10 exponent)

/-! ### Writing -/

/-- The exponent of the power of ten at or below a positive quotient. -/
def decimalExponent (value : Fraction) : Int :=
  if value.den ≤ value.num then (Text.ofNat value.floor).length - 1
  else
    let places := (Text.ofNat (value.den / value.num)).length
    if value.num * Nat.pow 10 (places - 1) = value.den then 1 - places else -places

/-- The interval of reals that round to `mantissa * 2 ^ exponent`: half a unit
above, and half a unit below, or a quarter where the spacing changes. -/
def roundingInterval (mantissa : Nat) (exponent : Int) : Fraction × Fraction :=
  let below := if mantissa = hiddenBit ∧ exponent > minExponent then 1 else 2
  (.scaled (4 * mantissa - below) 2 (exponent - 2), .scaled (4 * mantissa + 2) 2 (exponent - 2))

/-- The nearest decimal with `places` digits that rounds to a positive number:
digits and power of ten. The ends of the interval round to it if its mantissa
is even. -/
def decimalWith? (mantissa : Nat) (exponent : Int) (places : Nat) : Option (Nat × Int) :=
  let value := Fraction.scaled mantissa 2 exponent
  let (low, high) := roundingInterval mantissa exponent
  let power := decimalExponent value - places + 1
  let digits := (value.div (.scaled 1 10 power)).floor
  let readsBack (d : Nat) : Bool :=
    let decimal := Fraction.scaled d 10 power
    if mantissa % 2 = 0 then low.le decimal && decimal.le high
    else low.lt decimal && decimal.lt high
  let middle := Fraction.scaled (2 * digits + 1) 10 power
  let twice := Fraction.scaled (2 * mantissa) 2 exponent
  let nearLow := twice.lt middle || (twice.le middle && digits % 2 == 0)
  match readsBack digits, readsBack (digits + 1) with
  | true, true => some (if nearLow then digits else digits + 1, power)
  | true, false => some (digits, power)
  | false, true => some (digits + 1, power)
  | false, false => none

/-- The fewest digits that read back as a positive number, and the power of
ten of the last of them. Seventeen always do. -/
def shortest (mantissa : Nat) (exponent : Int) : Nat × Int :=
  ((List.range 17).findSome? fun n => decimalWith? mantissa exponent (n + 1)).getD (0, 0)

/-- Digits without the zeros at their end, and the power of ten of the last
that stays. -/
def trimZeros (digits : Text) (power : Int) : Text × Int :=
  let kept := Text.dropTrailing '0' digits
  (kept, power + (digits.length - kept.length))

/-- A numeral from significant digits and the power of ten of the last of
them. From 0.0001 up to below 10^16 the point stands in its place, with a
digit on each side; otherwise it follows the first digit, and the exponent has
a sign and at least two digits. -/
def numeral (digits : Text) (power : Int) : Text :=
  let top := power + digits.length - 1
  if top < -4 ∨ 16 ≤ top then
    let fraction := if digits.length = 1 then [] else '.' :: digits.tail
    let exponent := Text.ofNat top.natAbs
    digits.take 1 ++ fraction ++ ['e', if top < 0 then '-' else '+']
      ++ List.replicate (2 - exponent.length) '0' ++ exponent
  else if top < 0 then
    ['0', '.'] ++ Text.repeated '0' (-top - 1) ++ digits
  else
    let whole := digits.take (top.toNat + 1) ++ Text.repeated '0' power
    let fraction := digits.drop (top.toNat + 1)
    whole ++ ['.'] ++ (if fraction.isEmpty then ['0'] else fraction)

/-- The numeral of a number: the fewest digits that read back. -/
def shown : Binary64 → Text
  | nan => "nan".toList
  | infinite negative => (if negative then ['-'] else []) ++ "inf".toList
  | finite negative mantissa exponent =>
    let sign := if negative then ['-'] else []
    if mantissa = 0 then sign ++ "0.0".toList
    else
      let (digits, power) := shortest mantissa exponent
      let (digits, power) := trimZeros (Text.ofNat digits) power
      sign ++ numeral digits power

end Binary64

end MonkeyScan.Decimal
