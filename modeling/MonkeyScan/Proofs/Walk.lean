import MonkeyScan.Proofs.Reading

/-!
# `MonkeyScan.Proofs.Walk`: reading on, one character at a time

`Cursor.next` takes what stands at the front of a text all at once. `Cursor.walkNext`
gets there like a scanner that sees a single character: it tests the one under the
cursor, or the end of the input, and moves on by one.

Two things can go wrong on this way of which `Cursor.next` knows nothing. A loop may
not end, so a loop is given a number of turns. The conversion of digits to a number
may fail, so it is a parameter. `walkNext` gives nothing then.

* `walk_eq`: a loop that does not go on at the end of the input ends in time.
* `walk_ends_iff`: any other loop does not end everywhere.
* `walkNext_eq`: so reading on ends, and gives what `Cursor.next` gives. It converts
  no text of more than ten digits.
-/

set_option autoImplicit false

namespace MonkeyScan

open Scan

namespace Scan.CharClass

/-- Whether a character is in a class. -/
def test : CharClass → Char → Bool
  | wordStart => isWordStart
  | wordChar => isWordChar
  | digit => isDigit
  | blank => Text.isBlank

/-- Whether what is under a cursor is in a class. At the end of the input that is the
empty text. -/
def meets (cls : CharClass) (ch : Option Char) : Bool :=
  cls.holds ch.toList

/-- The end of the input is in no class. -/
@[simp] theorem meets_none (cls : CharClass) : cls.meets none = false := by
  cases cls <;> rfl

/-- A character by itself is in a class as a text of one character. -/
@[simp] theorem meets_some (cls : CharClass) (d : Char) : cls.meets (some d) = cls.test d := by
  cases cls with
  | wordStart | digit => rfl
  | wordChar =>
      show ([d] == ['_'] || [d].all Text.isAlphabetic) = isWordChar d
      simp [isWordChar, Bool.or_comm]
  | blank =>
      show [d].all Text.isBlank = Text.isBlank d
      simp

end Scan.CharClass

namespace Cursor

/-! ### The movements -/

/-- Moves on character by character as long as `goesOn` holds of what is under the
cursor. A loop that has not ended after so many turns is given up. -/
def walk (goesOn : Option Char → Bool) : Nat → Cursor → Option Cursor
  | 0, _ => none
  | turns + 1, c => if goesOn c.current then (c.advance 1).walk goesOn turns else some c

/-- The symbol that goes on with an equals sign, or the shorter one. -/
def walkSymbol (short long : Symbol) (c : Cursor) : Except ScanError Token × Cursor :=
  if c.peek = some '=' then (.ok ⟨.symbol long, none, c.position⟩, (c.advance 1).advance 1)
  else (.ok ⟨.symbol short, none, c.position⟩, c.advance 1)

/-- Walks over a word and looks it up. -/
def walkWord (turns : Nat) (c : Cursor) : Option (Except ScanError Token × Cursor) := do
  let last ← c.walk CharClass.wordChar.meets turns
  let name := c.rest.take (last.position - c.position)
  let token : Token :=
    match Kind.ofWord name with
    | .identifier => ⟨.identifier, some (.text name), c.position⟩
    | kind => ⟨kind, none, c.position⟩
  pure (.ok token, last)

/-- Digits without the zeros in front. Where all are zeros, one is kept. -/
def significant (digits : Text) : Text :=
  let nonzero := digits.dropWhile (· == '0')
  if nonzero.isEmpty then ['0'] else nonzero

/-- Walks over digits and converts those that are significant. How many they are is
looked at first. -/
def walkInteger (turns : Nat) (convert : Text → Option Nat) (c : Cursor) :
    Option (Except ScanError Nat × Cursor) := do
  let last ← c.walk CharClass.digit.meets turns
  let width := last.position - c.position
  let digits := significant (c.rest.take width)
  let tooLarge ←
    if digits.length > (Text.ofNat maxInteger).length then some true
    else (convert digits).map fun n => decide (n > maxInteger)
  if tooLarge then
    let (e, after) := c.refuse .malformedInteger width
    pure (.error e, after)
  else
    let n ← convert digits
    pure (.ok n, last)

/-- Walks to the closing quote of a string, or to the end of the input. -/
def walkString (turns : Nat) (c : Cursor) : Option (Except ScanError Text × Cursor) := do
  let last ← (c.advance 1).walk (fun ch => ch != some '"' && ch != none) turns
  let width := last.position - c.position
  if last.current = some '"' then
    pure (.ok ((c.rest.take width).drop 1), last.advance 1)
  else
    let (e, after) := c.refuse .unterminatedString width
    pure (.error e, after)

/-- Walks over what stands at the front, which its first character tells. -/
def walkStep (turns : Nat) (convert : Text → Option Nat) (c : Cursor) :
    Option (Except ScanError Token × Cursor) :=
  let ch := c.current
  match ch.bind Symbol.standalone? with
  | some s => some (.ok ⟨.symbol s, none, c.position⟩, c.advance 1)
  | none =>
    if ch = some '=' then some (c.walkSymbol .assign .eq)
    else if ch = some '!' then some (c.walkSymbol .bang .notEq)
    else if CharClass.wordStart.meets ch then c.walkWord turns
    else if CharClass.digit.meets ch then
      (c.walkInteger turns convert).map fun (found, after) =>
        (found.map fun (n : Nat) => ⟨.integer, some (.number n), c.position⟩, after)
    else if ch = some '"' then
      (c.walkString turns).map fun (found, after) =>
        (found.map fun (content : Text) => ⟨.string, some (.text content), c.position⟩, after)
    else
      match ch with
      | none => some (.ok ⟨.endOfInput, none, c.position⟩, c)
      | some d => some (.ok ⟨.illegal, some (.text [d]), c.position⟩, c.advance 1)

/-- Reads on character by character. Nothing is given where a loop takes more than so
many turns or the conversion of some digits fails. -/
def walkNext (turns : Nat) (convert : Text → Option Nat) (c : Cursor) :
    Option (Except ScanError Token × Cursor) := do
  let c ← c.walk CharClass.blank.meets turns
  c.walkStep turns convert

/-- A conversion that is right of each text of at most ten digits. Of any other text it
may give anything, or nothing. -/
def ConvertsTen (convert : Text → Option Nat) : Prop :=
  ∀ digits : Text, digits ≠ [] → (∀ d ∈ digits, isDigit d = true) → digits.length ≤ 10 →
    convert digits = some (decimalValue digits)

/-! ### Loops -/

section
variable {goesOn : Option Char → Bool} {c : Cursor}

/-- Moving on by no character changes nothing. -/
theorem advance_zero (c : Cursor) : c.advance 0 = c := rfl

/-- Moving on twice is moving on once, by more. -/
theorem advance_advance (c : Cursor) (m n : Nat) :
    (c.advance m).advance n = c.advance (m + n) := by
  simp only [advance, List.drop_drop, Nat.add_assoc]

/-- A loop that does not go on at the end of the input ends, in no more turns than
there are characters left and one. -/
theorem walk_eq (hend : goesOn none = false) {turns : Nat} (hturns : c.rest.length < turns) :
    c.walk goesOn turns
      = some (c.advance (c.rest.takeWhile fun d => goesOn (some d)).length) := by
  induction turns generalizing c with
  | zero => omega
  | succ turns ih =>
      rw [walk, current]
      cases hrest : c.rest with
      | nil =>
          simp only [List.head?_nil, hend, Bool.false_eq_true, if_false, List.takeWhile_nil,
            List.length_nil, advance_zero]
      | cons d more =>
          have hmore : (c.advance 1).rest = more := by simp only [advance, hrest, List.drop_one,
            List.tail_cons]
          have hless : (c.advance 1).rest.length < turns := by
            rw [hrest, List.length_cons] at hturns
            rw [hmore]
            omega
          rw [List.head?_cons, List.takeWhile_cons]
          cases hd : goesOn (some d) with
          | true =>
              rw [if_pos rfl, if_pos rfl, ih hless, hmore, advance_advance, List.length_cons,
                Nat.add_comm]
          | false => rfl

/-- Behind the last character no turn changes what is under the cursor. -/
theorem walk_of_rest_nil (hend : goesOn none = true) (hrest : c.rest = []) (turns : Nat) :
    c.walk goesOn turns = none := by
  induction turns generalizing c with
  | zero => rfl
  | succ turns ih =>
      have hmore : (c.advance 1).rest = [] := by simp [advance, hrest]
      rw [walk, current, hrest, List.head?_nil, if_pos hend, ih hmore]

/-- A loop ends from every cursor if and only if it does not go on at the end of the
input. -/
theorem walk_ends_iff :
    (∀ c : Cursor, ∃ turns last, c.walk goesOn turns = some last) ↔ goesOn none = false := by
  constructor
  · intro hends
    obtain ⟨turns, last, hlast⟩ := hends (start [] [])
    cases hend : goesOn none with
    | false => rfl
    | true =>
        rw [walk_of_rest_nil hend rfl] at hlast
        exact nomatch hlast
  · exact fun hend c => ⟨c.rest.length + 1, _, walk_eq hend (Nat.lt_succ_self _)⟩

/-- A loop over a class of characters ends behind them. -/
theorem walk_class (cls : CharClass) {turns : Nat} (hturns : c.rest.length < turns) :
    c.walk cls.meets turns = some (c.advance (c.rest.takeWhile cls.test).length) := by
  rw [walk_eq cls.meets_none hturns]
  simp only [CharClass.meets_some]

end

/-! ### What the walks find -/

section
variable {c : Cursor} {turns : Nat} {convert : Text → Option Nat}

/-- The characters passed over by a loop over a class are a run of it. -/
theorem take_takeWhile_length (p : Char → Bool) (t : Text) :
    t.take (t.takeWhile p).length = t.takeWhile p :=
  (List.prefix_iff_eq_take.mp (List.takeWhile_prefix p)).symm

/-- Takes a step from where a cursor stands. -/
def takeStep (c : Cursor) (s : Step) : Except ScanError Token × Cursor :=
  match s.outcome with
  | .token kind value => (.ok ⟨kind, value, c.position⟩, c.advance s.width)
  | .fault kind =>
    let (e, after) := c.refuse kind s.width
    (.error e, after)

/-- Reading on takes a step behind the blanks. -/
theorem next_eq_takeStep (c : Cursor) : c.next = c.skipBlanks.takeStep (step c.skipBlanks.rest) :=
  rfl

/-- A symbol and the longer one that it starts are told apart by the next character. -/
theorem walkSymbol_eq (short long : Symbol) (hshort : short.spelling.length = 1)
    (hlong : long.spelling.length = 2) (c : Cursor) :
    c.walkSymbol short long
      = c.takeStep (.ofSymbol (if c.rest.tail.head? = some '=' then long else short)) := by
  rw [walkSymbol, peek]
  split
  · show _ = (_, c.advance long.spelling.length)
    rw [hlong, advance_advance]
  · show _ = (_, c.advance short.spelling.length)
    rw [hshort]

/-- The word that is walked over is the one that a step takes. -/
theorem walkWord_eq (hturns : c.rest.length < turns) :
    c.walkWord turns = some (c.takeStep (.ofWord (c.rest.takeWhile isWordChar))) := by
  have hwalk := walk_class .wordChar hturns
  have hname : c.rest.take ((c.advance (c.rest.takeWhile isWordChar).length).position
      - c.position) = c.rest.takeWhile isWordChar := by
    rw [advance, Nat.add_sub_cancel_left, take_takeWhile_length]
  simp only [walkWord, hwalk, CharClass.test, Option.bind_eq_bind, Option.bind_some, hname]
  unfold Step.ofWord
  cases Kind.ofWord (c.rest.takeWhile isWordChar) <;> rfl

/-- Whether a zero is kept or not changes neither the number nor whether there are too
many digits. -/
theorem significant_spec {digits : Text} (hdigits : ∀ d ∈ digits, isDigit d = true) :
    significant digits ≠ [] ∧ (∀ d ∈ significant digits, isDigit d = true) ∧
      decimalValue (significant digits) = decimalValue (digits.dropWhile (· == '0')) ∧
      (10 < (significant digits).length ↔ 10 < (digits.dropWhile (· == '0')).length) := by
  have hnonzero : ∀ d ∈ digits.dropWhile (· == '0'), isDigit d = true :=
    fun d hd => hdigits d ((List.dropWhile_sublist _).subset hd)
  rw [significant]
  cases hdrop : digits.dropWhile (· == '0') with
  | nil => exact ⟨by decide, List.forall_mem_singleton.mpr (by decide), by decide, by decide⟩
  | cons d more =>
      rw [hdrop] at hnonzero
      exact ⟨List.cons_ne_nil _ _, hnonzero, rfl, Iff.rfl⟩

/-- The integer that is walked over is the one that is read at once. No more than ten
digits are converted for it. -/
theorem walkInteger_eq (hconvert : ConvertsTen convert) (hturns : c.rest.length < turns) :
    c.walkInteger turns convert = some c.readInteger := by
  have hwalk := walk_class .digit hturns
  have hlimit : (Text.ofNat maxInteger).length = 10 := by decide
  have hrun : ∀ d ∈ c.rest.takeWhile isDigit, isDigit d = true :=
    fun d hd => List.mem_takeWhile_imp hd
  obtain ⟨hne, hdigits, hvalue, hlong⟩ := significant_spec hrun
  simp only [walkInteger, hwalk, CharClass.test, Option.bind_eq_bind, Option.bind_some, advance,
    Nat.add_sub_cancel_left, take_takeWhile_length, hlimit, readInteger, Scan.readInteger]
  generalize significant (c.rest.takeWhile isDigit) = digits at *
  by_cases hten : 10 < digits.length
  · rw [if_pos hten, if_pos (hlong.mp hten)]
    rfl
  · have hconverted := hconvert digits hne hdigits (Nat.le_of_not_lt hten)
    rw [hvalue] at hconverted
    rw [if_neg hten, if_neg (mt hlong.mpr hten), hconverted]
    simp only [Option.map_some, Option.bind_some, decide_eq_true_eq]
    show (if decimalValue _ > maxInteger then _ else _) = _
    rw [decimalValue]
    split <;> rfl

/-- What is under a cursor that has moved on. -/
theorem current_advance (c : Cursor) (n : Nat) : (c.advance n).current = c.rest[n]? :=
  List.head?_drop

/-- Behind characters that are no quotes is a quote, unless nothing is left. -/
theorem getElem?_takeWhile_length (t : Text) :
    t[(t.takeWhile (· != '"')).length]? = some '"' ↔
      (t.takeWhile (· != '"')).length < t.length := by
  induction t with
  | nil => simp
  | cons d more ih =>
      by_cases hd : d = '"'
      · simp [hd]
      · simpa [hd] using ih

/-- The string that is walked over is the one that is read at once. -/
theorem walkString_eq (hturns : c.rest.length < turns) :
    c.walkString turns = some c.readString := by
  have hless : (c.advance 1).rest.length < turns := by
    simp only [advance, List.length_drop]
    omega
  have hwalk : (c.advance 1).walk (fun ch => ch != some '"' && ch != none) turns = _ :=
    walk_eq rfl hless
  have htest : (fun d => some d != some '"' && some d != none) = fun d => d != '"' := by
    funext d
    simp [bne]
  have hrest : (c.advance 1).rest = c.rest.tail := List.drop_one
  simp only [htest, hrest, advance_advance, Nat.add_comm 1] at hwalk
  have hquote := getElem?_takeWhile_length c.rest.tail
  rw [List.getElem?_tail, ← current_advance] at hquote
  have hcontent : (c.rest.take ((c.rest.tail.takeWhile (· != '"')).length + 1)).drop 1
      = c.rest.tail.takeWhile (· != '"') := by
    rw [List.drop_take, Nat.add_sub_cancel, List.drop_one, take_takeWhile_length]
  have hwidth (n : Nat) : (c.advance n).position - c.position = n :=
    Nat.add_sub_cancel_left _ _
  simp only [walkString, hwalk, Option.bind_eq_bind, Option.bind_some, hwidth, hcontent, hquote,
    readString, Scan.readString]
  split
  · rw [advance_advance]
    rfl
  · rfl

/-- Reading an integer is taking the step over it. -/
theorem takeStep_ofInteger (c : Cursor) :
    c.takeStep (.ofInteger (Scan.readInteger c.rest))
      = (c.readInteger.1.map fun (n : Nat) => ⟨.integer, some (.number n), c.position⟩,
          c.readInteger.2) := by
  rw [readInteger]
  rcases Scan.readInteger c.rest with ⟨_ | n, width⟩ <;> rfl

/-- Reading a string is taking the step over it. -/
theorem takeStep_ofString (c : Cursor) :
    c.takeStep (.ofString (Scan.readString c.rest))
      = (c.readString.1.map fun (content : Text) => ⟨.string, some (.text content), c.position⟩,
          c.readString.2) := by
  rw [readString]
  rcases Scan.readString c.rest with ⟨_ | content, width⟩ <;> rfl

/-- A standalone symbol is written with its one character. -/
theorem length_spelling_of_standalone? {d : Char} {s : Symbol}
    (h : Symbol.standalone? d = some s) : s.spelling.length = 1 := by
  have hspelling : (s.spelling == [d]) = true :=
    List.find?_some (p := fun s : Symbol => s.spelling == [d]) h
  rw [beq_iff_eq.mp hspelling, List.length_singleton]

/-- What is walked over is the step at the front. -/
theorem walkStep_eq (hconvert : ConvertsTen convert) (hturns : c.rest.length < turns) :
    c.walkStep turns convert = some (c.takeStep (step c.rest)) := by
  have hword := walkWord_eq hturns
  simp only [walkStep, walkInteger_eq hconvert hturns, walkString_eq hturns, Option.map_some,
    ← takeStep_ofInteger, ← takeStep_ofString]
  rw [current]
  cases hrest : c.rest with
  | nil => rfl
  | cons d rest =>
      rw [hrest] at hword
      simp only [List.head?_cons, Option.bind_some, step, Option.some.injEq, CharClass.meets_some,
        CharClass.test]
      cases hsymbol : Symbol.standalone? d with
      | some s =>
          show some (_, c.advance 1) = some (_, c.advance s.spelling.length)
          rw [length_spelling_of_standalone? hsymbol]
      | none =>
          dsimp only
          by_cases hassign : d = '='
          · rw [if_pos hassign, if_pos hassign, walkSymbol_eq .assign .eq rfl rfl, hrest,
              List.tail_cons]
          rw [if_neg hassign, if_neg hassign]
          by_cases hbang : d = '!'
          · rw [if_pos hbang, if_pos hbang, walkSymbol_eq .bang .notEq rfl rfl, hrest,
              List.tail_cons]
          rw [if_neg hbang, if_neg hbang]
          by_cases hstart : isWordStart d = true
          · rw [if_pos hstart, if_pos hstart, hword,
              List.takeWhile_cons_of_pos (isWordChar_of_isWordStart hstart)]
          rw [if_neg hstart, if_neg hstart]
          split
          · rfl
          split
          · rfl
          · rfl

/-- What is left behind the blanks is no longer. -/
theorem length_rest_skipBlanks_le (c : Cursor) : c.skipBlanks.rest.length ≤ c.rest.length := by
  rw [rest_skipBlanks]
  exact (List.dropWhile_sublist _).length_le

/-- Reading on character by character ends and gives what reading on at once gives, if
all loops may take as many turns as there are characters left and one. -/
theorem walkNext_eq (hconvert : ConvertsTen convert) (hturns : c.rest.length < turns) :
    c.walkNext turns convert = some c.next := by
  have hleft := length_rest_skipBlanks_le c
  have hskip : c.walk CharClass.blank.meets turns = some c.skipBlanks := walk_class .blank hturns
  rw [walkNext, hskip, next_eq_takeStep]
  exact walkStep_eq hconvert (by omega)

end

end Cursor

end MonkeyScan
