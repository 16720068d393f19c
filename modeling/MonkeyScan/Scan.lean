import MonkeyScan.ScanError
import MonkeyScan.Text.Alphabetic
import MonkeyScan.Text.Blank
import MonkeyScan.Token.Basic

/-!
# `MonkeyScan.Scan`: one token at the front of a text

`step` looks at a text that starts with no whitespace and tells what stands
at its front and how many characters that takes. It never looks back, and it
looks at most one character past the token it reports.

A name starts with an ASCII letter or `_` and goes on with letters of any
script. Digits are ASCII. A string runs to the next quote, over line breaks,
and has no escapes.

`step_width_pos` states that a step in a non-empty text takes at least one
character; the loops over a text end by it.
-/

set_option autoImplicit false

namespace MonkeyScan.Scan

/-! ### Character classes -/

/-- Whether a name may start with `c`. -/
def isWordStart (c : Char) : Bool :=
  c.isAlpha || c == '_'

/-- Whether a name may go on with `c`. -/
def isWordChar (c : Char) : Bool :=
  Text.isAlphabetic c || c == '_'

/-- Whether `c` is one of the ten ASCII digits. -/
def isDigit (c : Char) : Bool :=
  c.isDigit

/-- The classes of character that the scanner tells apart. -/
inductive CharClass where
  | wordStart | wordChar | digit | blank
  deriving DecidableEq, Repr

/-- Whether a text, taken as one unit, is in a class. For a single character
this is the class itself, and the empty text, which stands for the end of
input, is in none. Longer texts are neither word starts nor digits; they go on
a word if all are letters, and are blank if all are whitespace. -/
def CharClass.holds : CharClass → Text → Bool
  | wordStart, [c] => isWordStart c
  | wordStart, _ => false
  | wordChar, t => t == ['_'] || (!t.isEmpty && t.all Text.isAlphabetic)
  | digit, [c] => isDigit c
  | digit, _ => false
  | blank, t => !t.isEmpty && t.all Text.isBlank

/-! ### Literals -/

/-- The largest integer: integers have 32 bits, one of them for the sign. -/
def maxInteger : Nat :=
  2147483647

/-- The integer that stands at the front, if it is not too large, and the
number of its digits. Leading zeros count as digits only. More significant
digits than the largest integer has are too many, whatever they are. -/
def readInteger (t : Text) : Option Nat × Nat :=
  let digits := t.takeWhile isDigit
  let significant := digits.dropWhile (· == '0')
  let value :=
    if significant.length > (Text.ofNat maxInteger).length then none
    else
      let n := Nat.ofDigitChars 10 significant 0
      if n > maxInteger then none else some n
  (value, digits.length)

/-- The content of the string whose opening quote is the first character, if
there is a closing quote, and how many characters it takes. The first
character is passed over unexamined, also where the text has none. -/
def readString (t : Text) : Option Text × Nat :=
  let content := t.tail.takeWhile (· != '"')
  if content.length < t.tail.length then (some content, content.length + 2)
  else (none, content.length + 1)

/-! ### One step -/

/-- What stands at the front of a text. -/
inductive Outcome where
  | token (kind : Kind) (value : Option Value)
  | fault (kind : FaultKind)
  deriving DecidableEq, Repr

/-- An outcome and the number of characters that it takes. -/
structure Step where
  outcome : Outcome
  width : Nat
  deriving DecidableEq, Repr

/-- The step over a symbol. -/
def Step.ofSymbol (s : Symbol) : Step :=
  ⟨.token (.symbol s) none, s.spelling.length⟩

/-- The step over a word. -/
def Step.ofWord (word : Text) : Step :=
  match Kind.ofWord word with
  | .identifier => ⟨.token .identifier (some (.text word)), word.length⟩
  | kind => ⟨.token kind none, word.length⟩

/-- The step over a run of digits. -/
def Step.ofInteger : Option Nat × Nat → Step
  | (some n, width) => ⟨.token .integer (some (.number n)), width⟩
  | (none, width) => ⟨.fault .malformedInteger, width⟩

/-- The step over a string. -/
def Step.ofString : Option Text × Nat → Step
  | (some content, width) => ⟨.token .string (some (.text content)), width⟩
  | (none, width) => ⟨.fault .unterminatedString, width⟩

/-- The step at the front of a text that starts with no whitespace. -/
def step : Text → Step
  | [] => ⟨.token .endOfInput none, 0⟩
  | c :: rest =>
    match Symbol.standalone? c with
    | some s => .ofSymbol s
    | none =>
      if c = '=' then .ofSymbol (if rest.head? = some '=' then .eq else .assign)
      else if c = '!' then .ofSymbol (if rest.head? = some '=' then .notEq else .bang)
      else if isWordStart c then .ofWord (c :: rest.takeWhile isWordChar)
      else if isDigit c then .ofInteger (readInteger (c :: rest))
      else if c = '"' then .ofString (readString (c :: rest))
      else ⟨.token .illegal (some (.text [c])), 1⟩

/-! ### Progress -/

/-- A symbol takes at least one character. -/
theorem Step.ofSymbol_width_pos (s : Symbol) : 0 < (Step.ofSymbol s).width := by
  cases s <;> decide

/-- A word takes all of its characters. -/
theorem Step.ofWord_width (word : Text) : (Step.ofWord word).width = word.length := by
  unfold Step.ofWord
  split <;> rfl

/-- An integer takes the digits that were found, also where it is refused. -/
theorem Step.ofInteger_width (found : Option Nat × Nat) :
    (Step.ofInteger found).width = found.2 := by
  obtain ⟨value, width⟩ := found
  cases value <;> rfl

/-- A string takes the characters that were found, also without a closing quote. -/
theorem Step.ofString_width (found : Option Text × Nat) :
    (Step.ofString found).width = found.2 := by
  obtain ⟨content, width⟩ := found
  cases content <;> rfl

/-- A step in a non-empty text takes at least one character. -/
theorem step_width_pos (c : Char) (rest : Text) : 0 < (step (c :: rest)).width := by
  rw [step]
  split
  · exact Step.ofSymbol_width_pos _
  split
  · exact Step.ofSymbol_width_pos _
  split
  · exact Step.ofSymbol_width_pos _
  split
  · rw [Step.ofWord_width]; exact Nat.succ_pos _
  split
  next hdigit =>
    rw [Step.ofInteger_width]
    simp [readInteger, hdigit]
  split
  · rw [Step.ofString_width]
    simp only [readString]
    split <;> exact Nat.succ_pos _
  · exact Nat.succ_pos _

end MonkeyScan.Scan
