import MonkeyScan.Text.Basic

/-!
# `MonkeyScan.Toml.Limit`: what is valid and yet too large

Integers have no bound of their own, and values nest as deep as one likes.
Reading and showing are bounded all the same: a decimal numeral may have
4300 digits, and what is under way at a time has to fit on a stack.

The bound on digits is exact. The heights of the stack are measured, and are
those that the program leaves when it is run by itself: how much of a stack is
left depends on who calls. What is proved of the program holds for any other
heights as well.
-/

set_option autoImplicit false

namespace MonkeyScan.Toml

/-- The most digits of a decimal numeral, read or shown. -/
def maxDigits : Nat :=
  4300

/-- The height of the stack on which values are read, as measured. -/
def readingRoom : Nat :=
  989

/-- The height of the stack on which values are shown, as measured. -/
def showingRoom : Nat :=
  990

/-- Which bound is passed. -/
inductive Limit where
  | digitsToRead (count : Nat)
  | digitsToShow
  | nestingToRead
  | nestingToShow
  deriving DecidableEq, Repr

namespace Limit

/-- Whether the bound on digits is passed, rather than that on nesting. -/
def isDigits : Limit → Bool
  | digitsToRead _ | digitsToShow => true
  | nestingToRead | nestingToShow => false

/-- The wording for a numeral of too many digits, with what is known of it. -/
def digitsMessage (detail : Text) : Text :=
  "Exceeds the limit (".toList ++ Text.ofNat maxDigits
    ++ " digits) for integer string conversion".toList ++ detail
    ++ "; use sys.set_int_max_str_digits() to increase the limit".toList

/-- The wording of a passed bound. -/
def message : Limit → Text
  | digitsToRead count =>
    digitsMessage (": value has ".toList ++ Text.ofNat count ++ " digits".toList)
  | digitsToShow => digitsMessage []
  | nestingToRead => "maximum recursion depth exceeded".toList
  | nestingToShow =>
    "maximum recursion depth exceeded while getting the repr of an object".toList

end Limit

end MonkeyScan.Toml
