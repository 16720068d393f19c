/-!
# `MonkeyScan.Decimal.Fraction`: exact scaling and rounding

A quotient of natural numbers, kept unreduced. Conversions between binary
and decimal notation compare and round such quotients exactly.
-/

set_option autoImplicit false

namespace MonkeyScan.Decimal

/-- A quotient of natural numbers; the denominator is meant to be positive. -/
structure Fraction where
  num : Nat
  den : Nat
  deriving Repr

namespace Fraction

/-- `n` times a power of `base`, which may be negative. -/
def scaled (n base : Nat) (exponent : Int) : Fraction :=
  ⟨n * base.pow exponent.toNat, base.pow (-exponent).toNat⟩

/-- Whether one quotient is at most another. -/
def le (a b : Fraction) : Bool :=
  a.num * b.den ≤ b.num * a.den

/-- Whether one quotient is below another. -/
def lt (a b : Fraction) : Bool :=
  a.num * b.den < b.num * a.den

/-- The quotient of two quotients. -/
def div (a b : Fraction) : Fraction :=
  ⟨a.num * b.den, a.den * b.num⟩

/-- The integer part. -/
def floor (a : Fraction) : Nat :=
  a.num / a.den

/-- The nearest integer; a half goes to the even neighbour. -/
def round (a : Fraction) : Nat :=
  let low := a.floor
  let twice := 2 * (a.num % a.den)
  if twice < a.den ∨ (twice = a.den ∧ low % 2 = 0) then low else low + 1

end Fraction

end MonkeyScan.Decimal
