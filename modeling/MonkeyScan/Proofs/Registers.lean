import MonkeyScan.Proofs.Stream
import MonkeyScan.Proofs.Walk

/-!
# `MonkeyScan.Proofs.Registers`: a scanner that keeps a character at a time

A cursor holds what is left of its source. `Registers` are a scanner that does not: it
holds the character it is at, the offset of that, and the offset of the next one, and
looks every other character up in the source. The end of the source is no character. All
of its operations are made of one movement, `readChar`, which goes on past the end too.

Nothing in the definitions ties the three registers to one another. What ties them is that
the registers keep step with a cursor, whatever is asked of both and wherever they stand.

* `left_readChar_lt`: a loop that takes a character each time ends.
* `Sound.registers_readChar`, `Sound.registers_readWhile`: movements keep step.
* `Sound.registers_next`: so does reading a token or an error.
* `Sound.registers_perform`: so does every other operation.
-/

set_option autoImplicit false

namespace MonkeyScan

open Scan

/-- A source, the character that is read, its offset and the offset of the next one, and
the line index once an error has needed it. -/
structure Registers where
  source : Text
  filename : Text
  current : Option Char
  position : Nat
  nextPosition : Nat
  index? : Option LineIndex
  deriving DecidableEq, Repr

namespace Registers

/-! ### Movements -/

/-- Reads the next character, or nothing at the end. -/
def readChar (r : Registers) : Registers :=
  { r with
    current := r.source[r.nextPosition]?
    position := r.nextPosition
    nextPosition := r.nextPosition + 1 }

/-- The registers at the start of a source: the first character is read. -/
def start (source filename : Text) : Registers :=
  readChar ⟨source, filename, none, 0, 0, none⟩

/-- The character behind the one that is read. -/
def peek (r : Registers) : Option Char :=
  r.source[r.nextPosition]?

/-- How many characters can still be read, with the one that is. -/
def left (r : Registers) : Nat :=
  r.current.toList.length + (r.source.length - r.nextPosition)

/-- Behind the character that is read, what is left begins with the next one. -/
theorem left_readChar (r : Registers) : r.readChar.left = r.source.length - r.nextPosition := by
  show (r.source[r.nextPosition]?).toList.length + (r.source.length - (r.nextPosition + 1)) = _
  rcases Nat.lt_or_ge r.nextPosition r.source.length with hlt | hge
  · rw [List.getElem?_eq_getElem hlt, Option.toList_some, List.length_singleton]
    omega
  · rw [List.getElem?_eq_none hge, Option.toList_none, List.length_nil]
    omega

/-- Reading on from a character leaves fewer. -/
theorem left_readChar_lt {r : Registers} {d : Char} (h : r.current = some d) :
    r.readChar.left < r.left := by
  rw [left_readChar, left, h, Option.toList_some, List.length_singleton]
  omega

/-- Reads on as long as there are characters that fit. -/
def readWhile (fits : Char → Bool) (r : Registers) : Registers :=
  match _h : r.current with
  | some d => if fits d then r.readChar.readWhile fits else r
  | none => r
termination_by r.left
decreasing_by exact left_readChar_lt _h

/-- A run is empty where nothing is left. -/
theorem readWhile_of_none {fits : Char → Bool} {r : Registers} (h : r.current = none) :
    r.readWhile fits = r := by
  rw [readWhile]
  split
  next d hsome => exact nomatch hsome.symm.trans h
  · rfl

/-- A run goes on from a character that fits. -/
theorem readWhile_of_some {fits : Char → Bool} {r : Registers} {d : Char}
    (h : r.current = some d) :
    r.readWhile fits = if fits d then r.readChar.readWhile fits else r := by
  rw [readWhile]
  split
  next d' hsome => rw [Option.some.inj (h.symm.trans hsome)]
  next hnone => exact nomatch h.symm.trans hnone

/-- The characters of the source between two offsets. -/
def slice (r : Registers) (start stop : Nat) : Text :=
  (r.source.take stop).drop start

/-- The error that the characters since an offset are. From now on the line index is
kept. -/
def refuse (r : Registers) (kind : FaultKind) (start : Nat) : ScanError × Registers :=
  let index := r.index?.getD (LineIndex.ofText r.source)
  let text := r.slice start r.position
  (⟨kind, kind.message text, index.position start, text, r.source, r.filename⟩,
    { r with index? := some index })

/-! ### Parts of tokens -/

/-- Reads the characters that may go on a name and gives them. -/
def readWord (r : Registers) : Text × Registers :=
  let last := r.readWhile isWordChar
  (last.slice r.position last.position, last)

/-- Reads digits and gives their value. -/
def readInteger (r : Registers) : Except ScanError Nat × Registers :=
  let last := r.readWhile isDigit
  let digits := Cursor.significant (last.slice r.position last.position)
  if digits.length > (Text.ofNat maxInteger).length ∨ decimalValue digits > maxInteger then
    let (e, after) := last.refuse .malformedInteger r.position
    (.error e, after)
  else (.ok (decimalValue digits), last)

/-- Reads up to a quote, and the quote, and gives what is before it. The character that
was read is taken for the opening quote. -/
def readString (r : Registers) : Except ScanError Text × Registers :=
  let last := r.readChar.readWhile (· != '"')
  if last.current = some '"' then
    (.ok (last.slice (r.position + 1) last.position), last.readChar)
  else
    let (e, after) := last.refuse .unterminatedString r.position
    (.error e, after)

/-! ### Tokens -/

/-- Reads a symbol that may go on with an equals sign. -/
def readSymbol (short long : Symbol) (r : Registers) : Except ScanError Token × Registers :=
  if r.peek = some '=' then (.ok ⟨.symbol long, none, r.position⟩, r.readChar.readChar)
  else (.ok ⟨.symbol short, none, r.position⟩, r.readChar)

/-- Reads a word and looks it up. -/
def readName (r : Registers) : Except ScanError Token × Registers :=
  let name := r.readWord.1
  let token : Token :=
    match Kind.ofWord name with
    | .identifier => ⟨.identifier, some (.text name), r.position⟩
    | kind => ⟨kind, none, r.position⟩
  (.ok token, r.readWord.2)

/-- Reads a token whose first character is read already. -/
def readToken (r : Registers) : Except ScanError Token × Registers :=
  match r.current with
  | none => (.ok ⟨.endOfInput, none, r.position⟩, r)
  | some d =>
    match Symbol.standalone? d with
    | some s => (.ok ⟨.symbol s, none, r.position⟩, r.readChar)
    | none =>
      if d = '=' then r.readSymbol .assign .eq
      else if d = '!' then r.readSymbol .bang .notEq
      else if isWordStart d then r.readName
      else if isDigit d then
        (r.readInteger.1.map fun (n : Nat) => ⟨.integer, some (.number n), r.position⟩,
          r.readInteger.2)
      else if d = '"' then
        (r.readString.1.map fun (t : Text) => ⟨.string, some (.text t), r.position⟩,
          r.readString.2)
      else (.ok ⟨.illegal, some (.text [d]), r.position⟩, r.readChar)

/-- The next token or error. -/
def next (r : Registers) : Except ScanError Token × Registers :=
  (r.readWhile Text.isBlank).readToken

/-! ### Tokens leave less to read -/

/-- Reading a character leaves no more. -/
theorem left_readChar_le (r : Registers) : r.readChar.left ≤ r.left := by
  rw [left_readChar, left]
  exact Nat.le_add_left _ _

/-- Reading a run of characters leaves no more. -/
theorem left_readWhile_le (fits : Char → Bool) (r : Registers) :
    (r.readWhile fits).left ≤ r.left := by
  fun_induction readWhile fits r with
  | case1 r d h hfits ih => exact Nat.le_trans ih (Nat.le_of_lt (left_readChar_lt h))
  | case2 => exact Nat.le_refl _
  | case3 => exact Nat.le_refl _

/-- It leaves fewer if there is one. -/
theorem left_readWhile_lt {fits : Char → Bool} {r : Registers} {d : Char}
    (h : r.current = some d) (hfits : fits d = true) : (r.readWhile fits).left < r.left := by
  rw [readWhile_of_some h, if_pos hfits]
  exact Nat.lt_of_le_of_lt (left_readWhile_le fits _) (left_readChar_lt h)

section
variable {r : Registers} {d : Char}

/-- A symbol leaves fewer characters. -/
theorem left_readSymbol_lt (h : r.current = some d) (short long : Symbol) :
    (r.readSymbol short long).2.left < r.left := by
  have hchar := left_readChar_lt h
  rw [readSymbol]
  split
  · exact Nat.lt_of_le_of_lt (left_readChar_le _) hchar
  · exact hchar

/-- So does an integer, also one that is refused. -/
theorem left_readInteger_lt (h : r.current = some d) (hd : isDigit d = true) :
    r.readInteger.2.left < r.left := by
  have hrun := left_readWhile_lt h hd
  rw [readInteger]
  dsimp only
  split <;> exact hrun

/-- So does a string, also one without a closing quote. -/
theorem left_readString_lt (h : r.current = some d) : r.readString.2.left < r.left := by
  have hrun := Nat.lt_of_le_of_lt (left_readWhile_le (· != '"') r.readChar) (left_readChar_lt h)
  rw [readString]
  dsimp only
  split
  · exact Nat.lt_of_le_of_lt (left_readChar_le _) hrun
  · exact hrun

/-- Whatever is read from a first character leaves fewer. -/
theorem left_readToken_lt (h : r.current = some d) : r.readToken.2.left < r.left := by
  have hchar := left_readChar_lt h
  simp only [readToken, h]
  split
  · exact hchar
  split
  · exact left_readSymbol_lt h _ _
  split
  · exact left_readSymbol_lt h _ _
  split
  next hstart => exact left_readWhile_lt h (isWordChar_of_isWordStart hstart)
  split
  next hdigit => exact left_readInteger_lt h hdigit
  split
  · exact left_readString_lt h
  · exact hchar

/-- A token other than the end of the input leaves less to read. -/
theorem left_next_lt {after : Registers} {t : Token} (h : r.next = (.ok t, after))
    (hkind : t.kind ≠ .endOfInput) : after.left < r.left := by
  refine Nat.lt_of_lt_of_le ?_ (left_readWhile_le Text.isBlank r)
  rw [next] at h
  cases hcurrent : (r.readWhile Text.isBlank).current with
  | some d =>
      have hless := left_readToken_lt hcurrent
      rw [h] at hless
      exact hless
  | none =>
      simp only [readToken, hcurrent, Prod.mk.injEq, Except.ok.injEq] at h
      rw [← h.1] at hkind
      exact absurd rfl hkind

end

/-- All tokens up to the end of the input, or the first error on the way. -/
def tokenize (r : Registers) : Except ScanError (List Token) × Registers :=
  match _hnext : r.next with
  | (.error e, after) => (.error e, after)
  | (.ok t, after) =>
    if _hkind : t.kind = .endOfInput then (.ok [t], after)
    else
      match after.tokenize with
      | (.error e, last) => (.error e, last)
      | (.ok tokens, last) => (.ok (t :: tokens), last)
termination_by r.left
decreasing_by exact left_next_lt _hnext _hkind

section
variable {r after : Registers} {t : Token} {e : ScanError}

/-- The loop ends with an error. -/
theorem tokenize_of_error (h : r.next = (.error e, after)) : r.tokenize = (.error e, after) := by
  rw [tokenize]
  split
  next e' after' heq =>
    obtain ⟨he, hafter⟩ := Prod.mk.inj (heq.symm.trans h)
    rw [Except.error.inj he, hafter]
  next t' after' heq => exact nomatch heq.symm.trans h

/-- It ends with the end of the input. -/
theorem tokenize_of_last (h : r.next = (.ok t, after)) (hkind : t.kind = .endOfInput) :
    r.tokenize = (.ok [t], after) := by
  rw [tokenize]
  split
  next e' after' heq => exact nomatch heq.symm.trans h
  next t' after' heq =>
    obtain ⟨ht, hafter⟩ := Prod.mk.inj (heq.symm.trans h)
    rw [Except.ok.inj ht, hafter, dif_pos hkind]

/-- It goes on from any other token. -/
theorem tokenize_of_more (h : r.next = (.ok t, after)) (hkind : t.kind ≠ .endOfInput) :
    r.tokenize = after.tokenize.map (Except.map (t :: ·)) id := by
  rw [tokenize]
  split
  next e' after' heq => exact nomatch heq.symm.trans h
  next t' after' heq =>
    obtain ⟨ht, hafter⟩ := Prod.mk.inj (heq.symm.trans h)
    rw [Except.ok.inj ht, hafter, dif_neg hkind]
    rcases after.tokenize with ⟨e | tokens, last⟩ <;> rfl

end

/-- At most `n` tokens, fewer if the input ends, or the first error on the way. -/
def take (r : Registers) : Nat → Except ScanError (List Token) × Registers
  | 0 => (.ok [], r)
  | n + 1 =>
    match r.next with
    | (.error e, after) => (.error e, after)
    | (.ok t, after) =>
      if t.kind = .endOfInput then (.ok [t], after)
      else
        match after.take n with
        | (.error e, last) => (.error e, last)
        | (.ok tokens, last) => (.ok (t :: tokens), last)

/-! ### Sessions -/

/-- Performs one operation. -/
def perform (r : Registers) : Operation → Answer × Registers
  | .next => r.next.map (.ofExcept .token) id
  | .tokenize => r.tokenize.map (.ofExcept .tokens) id
  | .take n => (r.take n).map (.ofExcept .tokens) id
  | .peek => (.character r.peek, r)
  | .advance => (.done, r.readChar)
  | .skipBlanks => (.done, r.readWhile Text.isBlank)
  | .readWord => r.readWord.map .text id
  | .readInteger => r.readInteger.map (.ofExcept .number) id
  | .readString => r.readString.map (.ofExcept .text) id

/-- Performs operations in turn: each answer with the registers after it. -/
def session (r : Registers) : List Operation → List (Answer × Registers)
  | [] => []
  | op :: more =>
    let done := r.perform op
    done :: done.2.session more

end Registers

namespace Cursor

/-- What a scanner with registers keeps where a cursor stands. -/
def registers (c : Cursor) : Registers :=
  ⟨c.source, c.filename, c.current, c.position, c.nextPosition, c.index?⟩

/-! ### Movements keep step -/

namespace Sound

variable {source filename : Text} {c : Cursor}

/-- What is under a sound cursor that has moved on stands in the source. -/
theorem getElem?_source (h : Sound source filename c) (n : Nat) :
    c.source[c.position + n]? = c.rest[n]? := by
  rw [h.source_eq, h.rest_eq, List.getElem?_drop]

/-- Reading a character is moving on by one. -/
theorem registers_readChar (h : Sound source filename c) :
    c.registers.readChar = (c.advance 1).registers := by
  have hcurrent : c.source[c.nextPosition]? = (c.advance 1).current := by
    rw [current_advance]
    exact h.getElem?_source 1
  rw [registers, Registers.readChar, hcurrent]
  rfl

/-- Looking at the next character is the same for both. -/
theorem registers_peek (h : Sound source filename c) : c.registers.peek = c.peek := by
  rw [peek, List.head?_tail]
  exact h.getElem?_source 1

/-- Reading on is moving over a run of characters. -/
theorem registers_readWhile (h : Sound source filename c) (fits : Char → Bool) :
    c.registers.readWhile fits = (c.advance (c.rest.takeWhile fits).length).registers := by
  generalize hrest : c.rest = rest
  induction rest generalizing c with
  | nil =>
      have hnone : c.registers.current = none := by
        show c.rest.head? = none
        rw [hrest, List.head?_nil]
      rw [Registers.readWhile_of_none hnone]
      rfl
  | cons d more ih =>
      have hsome : c.registers.current = some d := by
        show c.rest.head? = some d
        rw [hrest, List.head?_cons]
      have hmore : (c.advance 1).rest = more := by
        show c.rest.drop 1 = more
        rw [hrest, List.drop_one, List.tail_cons]
      rw [Registers.readWhile_of_some hsome, h.registers_readChar, ih (h.advance 1) hmore,
        advance_advance, List.takeWhile_cons]
      split
      · rw [List.length_cons, Nat.add_comm]
      · rfl

/-- What was moved over is a slice of the source. -/
theorem slice_registers (h : Sound source filename c) (n : Nat) :
    (c.advance n).registers.slice c.position (c.position + n) = c.rest.take n := by
  show (c.source.take (c.position + n)).drop c.position = _
  rw [h.source_eq, h.rest_eq, List.drop_take, Nat.add_sub_cancel_left]

/-- Refusing what was moved over is refusing it in front. -/
theorem refuse_registers (h : Sound source filename c) (kind : FaultKind) (n : Nat) :
    (c.advance n).registers.refuse kind c.position = (c.refuse kind n).map id registers := by
  have hposition : (c.advance n).registers.position = c.position + n := rfl
  rw [Registers.refuse, hposition, h.slice_registers]
  rfl

/-! ### Parts of tokens keep step -/

/-- Reading a word. -/
theorem registers_readWord (h : Sound source filename c) :
    c.registers.readWord = c.readWord.map id registers := by
  have hslice := h.slice_registers (c.rest.takeWhile isWordChar).length
  rw [take_takeWhile_length] at hslice
  rw [Registers.readWord, h.registers_readWhile]
  exact Prod.ext hslice rfl

/-- Reading an integer. -/
theorem registers_readInteger (h : Sound source filename c) :
    c.registers.readInteger = c.readInteger.map id registers := by
  have hslice := h.slice_registers (c.rest.takeWhile isDigit).length
  have hrefuse := h.refuse_registers .malformedInteger (c.rest.takeWhile isDigit).length
  have hrun : ∀ d ∈ c.rest.takeWhile isDigit, isDigit d = true :=
    fun d hd => List.mem_takeWhile_imp hd
  have hlimit : (Text.ofNat maxInteger).length = 10 := by decide
  obtain ⟨-, -, hvalue, hlong⟩ := significant_spec hrun
  rw [take_takeWhile_length] at hslice
  have hstart : c.registers.position = c.position := rfl
  have hstop : (c.advance (c.rest.takeWhile isDigit).length).registers.position
      = c.position + (c.rest.takeWhile isDigit).length := rfl
  simp only [Registers.readInteger, h.registers_readWhile, hstart, hstop, hslice, hrefuse, hvalue,
    hlimit, gt_iff_lt, hlong, readInteger, Scan.readInteger]
  generalize (c.rest.takeWhile isDigit).dropWhile (· == '0') = digits
  rw [decimalValue]
  by_cases hten : 10 < digits.length
  · rw [if_pos (Or.inl hten), if_pos hten]
    rfl
  by_cases hmax : maxInteger < Nat.ofDigitChars 10 digits 0
  · rw [if_pos (Or.inr hmax), if_neg hten, if_pos hmax]
    rfl
  · rw [if_neg (not_or.mpr ⟨hten, hmax⟩), if_neg hten, if_neg hmax]
    rfl

/-- Reading a string. -/
theorem registers_readString (h : Sound source filename c) :
    c.registers.readString = c.readString.map id registers := by
  have hrest : (c.advance 1).rest = c.rest.tail := List.drop_one
  have hrun := (h.advance 1).registers_readWhile (· != '"')
  have hslice := (h.advance 1).slice_registers (c.rest.tail.takeWhile (· != '"')).length
  have hrefuse := h.refuse_registers .unterminatedString
    ((c.rest.tail.takeWhile (· != '"')).length + 1)
  have hquote := getElem?_takeWhile_length c.rest.tail
  rw [hrest, advance_advance, Nat.add_comm, ← h.registers_readChar] at hrun
  rw [hrest, take_takeWhile_length, advance_advance, Nat.add_comm 1] at hslice
  rw [List.getElem?_tail, ← current_advance] at hquote
  rw [Registers.readString, hrun, readString, Scan.readString]
  generalize c.rest.tail.takeWhile (· != '"') = content at *
  have hstart : c.registers.position = c.position := rfl
  have hstop : (c.advance (content.length + 1)).registers.position
      = c.position + 1 + content.length := by
    show c.position + (content.length + 1) = c.position + 1 + content.length
    omega
  by_cases hend : content.length < c.rest.tail.length
  · have hcurrent : (c.advance (content.length + 1)).registers.current = some '"' :=
      hquote.mpr hend
    have hcontent : (c.advance (content.length + 1)).registers.slice (c.position + 1)
        (c.position + 1 + content.length) = content := hslice
    rw [if_pos hend, if_pos hcurrent, hstart, hstop, hcontent,
      (h.advance _).registers_readChar, advance_advance]
    rfl
  · have hcurrent : ¬ (c.advance (content.length + 1)).registers.current = some '"' :=
      fun hcurrent => hend (hquote.mp hcurrent)
    rw [if_neg hend, if_neg hcurrent, hstart, hrefuse]
    rfl

/-! ### Tokens keep step -/

/-- Reading a symbol is taking the step over it. -/
theorem registers_readSymbol (h : Sound source filename c) (short long : Symbol)
    (hshort : short.spelling.length = 1) (hlong : long.spelling.length = 2) :
    c.registers.readSymbol short long
      = (c.takeStep (.ofSymbol (if c.rest.tail.head? = some '=' then long else short))).map id
          registers := by
  have hpeek := h.registers_peek
  rw [Registers.readSymbol, hpeek, peek]
  split
  · rw [h.registers_readChar, (h.advance 1).registers_readChar, advance_advance]
    show _ = (_, (c.advance long.spelling.length).registers)
    rw [hlong]
    rfl
  · rw [h.registers_readChar]
    show _ = (_, (c.advance short.spelling.length).registers)
    rw [hshort]
    rfl

/-- Reading a name is taking the step over it. -/
theorem registers_readName (h : Sound source filename c) :
    c.registers.readName
      = (c.takeStep (.ofWord (c.rest.takeWhile isWordChar))).map id registers := by
  have hword : c.readWord = (c.rest.takeWhile isWordChar,
      c.advance (c.rest.takeWhile isWordChar).length) := rfl
  rw [Registers.readName, h.registers_readWord, hword, Step.ofWord]
  dsimp only [Prod.map_fst, Prod.map_snd, id]
  cases Kind.ofWord (c.rest.takeWhile isWordChar) <;> rfl

/-- Reading a token is taking the step at the front. -/
theorem registers_readToken (h : Sound source filename c) :
    c.registers.readToken = (c.takeStep (step c.rest)).map id registers := by
  have hname := h.registers_readName
  have hcurrent : c.registers.current = c.rest.head? := rfl
  rw [Registers.readToken, hcurrent]
  cases hrest : c.rest with
  | nil => rfl
  | cons d more =>
      rw [hrest] at hname
      simp only [List.head?_cons, step]
      cases hsymbol : Symbol.standalone? d with
      | some s =>
          show (_, c.registers.readChar) = (_, (c.advance s.spelling.length).registers)
          rw [length_spelling_of_standalone? hsymbol, h.registers_readChar]
          rfl
      | none =>
          dsimp only
          by_cases hassign : d = '='
          · rw [if_pos hassign, if_pos hassign, h.registers_readSymbol .assign .eq rfl rfl, hrest,
              List.tail_cons]
          rw [if_neg hassign, if_neg hassign]
          by_cases hbang : d = '!'
          · rw [if_pos hbang, if_pos hbang, h.registers_readSymbol .bang .notEq rfl rfl, hrest,
              List.tail_cons]
          rw [if_neg hbang, if_neg hbang]
          by_cases hstart : isWordStart d = true
          · rw [if_pos hstart, if_pos hstart, hname,
              List.takeWhile_cons_of_pos (isWordChar_of_isWordStart hstart)]
          rw [if_neg hstart, if_neg hstart]
          by_cases hdigit : isDigit d = true
          · rw [if_pos hdigit, if_pos hdigit, h.registers_readInteger, ← hrest,
              takeStep_ofInteger]
            rfl
          rw [if_neg hdigit, if_neg hdigit]
          by_cases hquote : d = '"'
          · rw [if_pos hquote, if_pos hquote, h.registers_readString, ← hrest, takeStep_ofString]
            rfl
          rw [if_neg hquote, if_neg hquote, h.registers_readChar]
          rfl

/-- Reading the next token or error. -/
theorem registers_next (h : Sound source filename c) :
    c.registers.next = c.next.map id registers := by
  rw [Registers.next, h.registers_readWhile]
  exact (h.advance _).registers_readToken

/-- Reading a number of tokens. -/
theorem registers_take (h : Sound source filename c) (n : Nat) :
    c.registers.take n = (c.take n).map id registers := by
  induction n generalizing c with
  | zero => rfl
  | succ n ih =>
      have hsound := h.next
      rw [Registers.take, h.registers_next, take]
      rcases hnext : c.next with ⟨e | t, after⟩
      · rfl
      · have hmore : after.registers.take n = (after.take n).map id registers := by
          rw [hnext] at hsound
          exact ih hsound
        simp only [Prod.map, id, hmore]
        by_cases hkind : t.kind = .endOfInput
        · rw [if_pos hkind, if_pos hkind]
        · rw [if_neg hkind, if_neg hkind]
          rcases after.take n with ⟨e | tokens, last⟩ <;> rfl

/-- Reading all tokens. -/
theorem registers_tokenize {c : Cursor} (h : Sound source filename c) :
    c.registers.tokenize = c.tokenize.map id registers := by
  have hsound := h.next
  rw [tokenize]
  split
  next e after heq =>
    have hnext : c.registers.next = (.error e, after.registers) := by
      rw [h.registers_next, heq]
      rfl
    rw [Registers.tokenize_of_error hnext]
    rfl
  next t after heq =>
    have hnext : c.registers.next = (.ok t, after.registers) := by
      rw [h.registers_next, heq]
      rfl
    split
    next hkind =>
      rw [Registers.tokenize_of_last hnext hkind]
      rfl
    next hkind =>
      -- Both loops go on from a token, behind which less is left.
      have hshorter := next_rest_lt heq hkind
      rw [heq] at hsound
      rw [Registers.tokenize_of_more hnext hkind, registers_tokenize hsound]
      rcases after.tokenize with ⟨e | tokens, last⟩ <;> rfl
termination_by c.rest.length

/-- Whatever is asked of both, registers keep step with a sound cursor. -/
theorem registers_perform (h : Sound source filename c) (op : Operation) :
    c.registers.perform op = (c.perform op).map id registers := by
  cases op with
  | next =>
      show c.registers.next.map _ _ = _
      rw [h.registers_next]
      rfl
  | tokenize =>
      show c.registers.tokenize.map _ _ = _
      rw [h.registers_tokenize]
      rfl
  | take n =>
      show (c.registers.take n).map _ _ = _
      rw [h.registers_take]
      rfl
  | peek =>
      show (Answer.character c.registers.peek, c.registers) = (.character c.peek, c.registers)
      rw [h.registers_peek]
  | advance =>
      show (_, c.registers.readChar) = (_, _)
      rw [h.registers_readChar]
      rfl
  | skipBlanks =>
      show (_, c.registers.readWhile _) = (_, _)
      rw [h.registers_readWhile]
      rfl
  | readWord =>
      show c.registers.readWord.map _ _ = _
      rw [h.registers_readWord]
      rfl
  | readInteger =>
      show c.registers.readInteger.map _ _ = _
      rw [h.registers_readInteger]
      rfl
  | readString =>
      show c.registers.readString.map _ _ = _
      rw [h.registers_readString]
      rfl

end Sound

end Cursor

end MonkeyScan
