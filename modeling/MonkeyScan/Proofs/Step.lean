import Mathlib.Algebra.Group.Nat.Defs
import Mathlib.Data.List.TakeWhile
import MonkeyScan.Proofs.Lexeme

/-!
# `MonkeyScan.Proofs.Step`: a step takes what stands at the front

`Scan.step` chooses a branch by the first character and reads on as far as
that branch goes. `Front` says by the grammar alone what stands at the front
of a text. The two agree:

* `Front.step_eq`: where `m` stands at the front of `t` for `o`, the step in
  `t` has the outcome `o` and the width of `m`.
* `front_iff_step`: in a text that starts with no whitespace, what stands at
  the front is the prefix that the step takes.

The lemmas on the way follow the branches of the step: `step_symbol`,
`step_word`, `step_digits`, `step_quoted`, `step_open`, `step_stray`. For
integers, `readInteger_digits` states that dropping leading zeros and looking
at the number of digits first does not change which integers are too large.
-/

set_option autoImplicit false

namespace MonkeyScan

namespace Scan

/-! ### Reading as far as a class goes -/

/-- The rest of a text cannot go on a run of the class. -/
def StopsAt (p : Char → Bool) (rest : Text) : Prop :=
  ∀ d, rest.head? = some d → p d = false

/-- A run ends where the rest cannot go on it. -/
theorem takeWhile_run {p : Char → Bool} {run rest : Text} (hrun : ∀ d ∈ run, p d = true)
    (hstop : StopsAt p rest) : (run ++ rest).takeWhile p = run := by
  rw [List.takeWhile_append_of_pos hrun]
  cases rest with
  | nil => rw [List.takeWhile_nil, List.append_nil]
  | cons d more =>
      rw [List.takeWhile_cons_of_neg (by rw [hstop d rfl]; decide), List.append_nil]

/-- Behind a run is the rest. -/
theorem dropWhile_run {p : Char → Bool} {run rest : Text} (hrun : ∀ d ∈ run, p d = true)
    (hstop : StopsAt p rest) : (run ++ rest).dropWhile p = rest := by
  rw [List.dropWhile_append_of_pos hrun]
  cases rest with
  | nil => rfl
  | cons d more => rw [List.dropWhile_cons_of_neg (by rw [hstop d rfl]; decide)]

/-! ### Integers -/

/-- Leading zeros add nothing to a number. -/
theorem decimalValue_dropWhile_zero (digits : Text) :
    decimalValue (digits.dropWhile (· == '0')) = decimalValue digits := by
  induction digits with
  | nil => rfl
  | cons c more ih =>
      by_cases hzero : c = '0'
      · subst hzero
        rw [List.dropWhile_cons_of_pos (by decide), ih]
        rfl
      · rw [List.dropWhile_cons_of_neg (by simpa using hzero)]

/-- A number whose first digit is not zero has a power of ten below it. -/
theorem pow_le_decimalValue {c : Char} {more : Text} (hdigit : isDigit c = true)
    (hzero : c ≠ '0') : 10 ^ more.length ≤ decimalValue (c :: more) := by
  have hcode := isDigit_iff.mp hdigit
  have hne : c.toNat ≠ '0'.toNat := fun h => hzero (Char.toNat_inj.mp h)
  have hfirst : 1 ≤ c.toNat - '0'.toNat := by
    have h0 : '0'.toNat = 48 := rfl
    omega
  -- The first digit is at least one and counts the power below which the others are.
  show 10 ^ more.length ≤ Nat.ofDigitChars 10 (c :: more) 0
  rw [Nat.ofDigitChars_cons, Nat.ofDigitChars_eq_ofDigitChars_zero, Nat.mul_zero, Nat.zero_add]
  have hmul := Nat.mul_le_mul_left (10 ^ more.length) hfirst
  omega

/-- Eleven significant digits are more than the largest integer has. -/
theorem maxInteger_lt_decimalValue {digits : Text} (hdigits : ∀ d ∈ digits, isDigit d = true)
    (hlong : 10 < (digits.dropWhile (· == '0')).length) : maxInteger < decimalValue digits := by
  rw [← decimalValue_dropWhile_zero]
  cases hsig : digits.dropWhile (· == '0') with
  | nil =>
      rw [hsig] at hlong
      exact absurd hlong (by decide)
  | cons c more =>
      have hmem : c ∈ digits := by
        have hsub := (List.dropWhile_sublist (l := digits) (· == '0')).subset
        rw [hsig] at hsub
        exact hsub List.mem_cons_self
      have hzero : c ≠ '0' := by
        have hhead := List.head?_dropWhile_not (· == '0') digits
        rw [hsig] at hhead
        simpa using hhead
      rw [hsig, List.length_cons] at hlong
      calc maxInteger < 10 ^ 10 := by decide
        _ ≤ 10 ^ more.length := Nat.pow_le_pow_right (by decide) (by omega)
        _ ≤ decimalValue (c :: more) := pow_le_decimalValue (hdigits c hmem) hzero

/-- The integer at the front of a run of digits: its value, unless that is too
large. -/
theorem readInteger_digits {digits rest : Text} (hdigits : ∀ d ∈ digits, isDigit d = true)
    (hstop : StopsAt isDigit rest) :
    readInteger (digits ++ rest)
      = (if maxInteger < decimalValue digits then none else some (decimalValue digits),
          digits.length) := by
  have hlimit : (Text.ofNat maxInteger).length = 10 := by decide
  -- Too many significant digits are too large a value, so the value alone decides.
  simp only [readInteger, takeWhile_run hdigits hstop, hlimit]
  split
  next hlong => rw [if_pos (maxInteger_lt_decimalValue hdigits hlong)]
  next hshort =>
    show (if maxInteger < decimalValue (digits.dropWhile (· == '0')) then none
        else some (decimalValue (digits.dropWhile (· == '0'))), digits.length) = _
    rw [decimalValue_dropWhile_zero]

/-! ### The branches of a step -/

/-- No symbol of its own is written with a character that is in no symbol. -/
theorem standalone?_eq_none {c : Char} (hc : ∀ s : Symbol, c ∉ s.spelling) :
    Symbol.standalone? c = none := by
  rw [Symbol.standalone?, List.find?_eq_none]
  intro s _ hs
  rw [beq_iff_eq] at hs
  exact hc s (by rw [hs]; exact List.mem_cons_self)

/-- The step at a character that is in no symbol. -/
theorem step_cons_of_not_symbol {c : Char} (hc : ∀ s : Symbol, c ∉ s.spelling) (rest : Text) :
    step (c :: rest) =
      if isWordStart c then .ofWord (c :: rest.takeWhile isWordChar)
      else if isDigit c then .ofInteger (readInteger (c :: rest))
      else if c = '"' then .ofString (readString (c :: rest))
      else ⟨.token .illegal (some (.text [c])), 1⟩ := by
  have hassign : c ≠ '=' := fun h => hc .assign (by rw [h]; decide)
  have hbang : c ≠ '!' := fun h => hc .bang (by rw [h]; decide)
  rw [step, standalone?_eq_none hc]
  simp only [if_neg hassign, if_neg hbang]

/-- The step over a word. -/
theorem step_word {c : Char} {more rest : Text} (first : isWordStart c = true)
    (others : ∀ d ∈ more, isWordChar d = true) (hstop : StopsAt isWordChar rest) :
    step (c :: (more ++ rest)) = .ofWord (c :: more) := by
  -- Symbols are looked for first, but none starts like a word.
  have hsymbol : ∀ s : Symbol, c ∉ s.spelling := by
    intro s hmem
    rw [(Symbol.char_apart hmem).2.1] at first
    exact absurd first Bool.false_ne_true
  rw [step_cons_of_not_symbol hsymbol, if_pos first, takeWhile_run others hstop]

/-- The step over a run of digits. -/
theorem step_digits {c : Char} {more rest : Text} (first : isDigit c = true)
    (others : ∀ d ∈ more, isDigit d = true) (hstop : StopsAt isDigit rest) :
    step (c :: (more ++ rest))
      = .ofInteger (if maxInteger < decimalValue (c :: more) then none
          else some (decimalValue (c :: more)), (c :: more).length) := by
  have hsymbol : ∀ s : Symbol, c ∉ s.spelling := by
    intro s hmem
    rw [(Symbol.char_apart hmem).2.2.1] at first
    exact absurd first Bool.false_ne_true
  have hword : ¬ isWordStart c = true := by
    intro h
    rw [isDigit_eq_false_of_isWordStart h] at first
    exact absurd first Bool.false_ne_true
  have hrun : ∀ d ∈ c :: more, isDigit d = true := List.forall_mem_cons.mpr ⟨first, others⟩
  rw [step_cons_of_not_symbol hsymbol, if_neg hword, if_pos first, ← List.cons_append,
    readInteger_digits hrun hstop]

/-- The step at a quote. -/
theorem step_quote (rest : Text) :
    step ('"' :: rest) = .ofString (readString ('"' :: rest)) := by
  rw [step_cons_of_not_symbol fun s hmem => (Symbol.char_apart hmem).2.2.2 rfl,
    if_neg (by decide), if_neg (by decide), if_pos rfl]

/-- The step over a string with both quotes. -/
theorem step_quoted {content rest : Text} (hclosed : '"' ∉ content) :
    step ('"' :: (content ++ '"' :: rest))
      = ⟨.token .string (some (.text content)), content.length + 2⟩ := by
  have hcontent : (content ++ '"' :: rest).takeWhile (· != '"') = content := by
    refine takeWhile_run (fun d hd => ?_) (fun d hd => ?_)
    · rw [bne_iff_ne]
      exact fun h => hclosed (h ▸ hd)
    · rw [← Option.some.inj hd]
      decide
  rw [step_quote]
  simp only [readString, List.tail_cons, hcontent]
  rw [if_pos (by rw [List.length_append, List.length_cons]; omega)]
  rfl

/-- The step over a string that is never closed. -/
theorem step_open {rest : Text} (hopen : '"' ∉ rest) :
    step ('"' :: rest) = ⟨.fault .unterminatedString, rest.length + 1⟩ := by
  -- Without a quote to stop at, the content is the whole rest.
  have hcontent : rest.takeWhile (· != '"') = rest := by
    rw [List.takeWhile_eq_self_iff]
    intro d hd
    rw [bne_iff_ne]
    exact fun h => hopen (h ▸ hd)
  rw [step_quote]
  simp only [readString, List.tail_cons, hcontent]
  rw [if_neg (Nat.lt_irrefl _)]
  rfl

/-- The step over a character with which no lexeme starts. -/
theorem step_stray {c : Char} (hstray : ∀ w, ¬ Lexeme (c :: w)) (rest : Text) :
    step (c :: rest) = ⟨.token .illegal (some (.text [c])), 1⟩ := by
  -- Every other branch of the step is for characters that start some lexeme.
  have hsymbol : ∀ s : Symbol, c ∉ s.spelling := by
    intro s hmem
    obtain ⟨s', hs'⟩ := Symbol.exists_spelling_singleton hmem
    exact hstray [] (hs' ▸ .symbol s')
  have hword : ¬ isWordStart c = true := fun h => hstray [] (.word h (by simp))
  have hdigit : ¬ isDigit c = true := fun h => hstray [] (.digits h (by simp))
  have hquote : c ≠ '"' := fun h => hstray ['"'] (h ▸ .quoted List.not_mem_nil)
  rw [step_cons_of_not_symbol hsymbol, if_neg hword, if_neg hdigit, if_neg hquote]

/-- The step over a symbol that is no part of a longer one. -/
theorem step_symbol {s : Symbol} {rest : Text}
    (hlongest : ∀ s' : Symbol, s'.spelling <+: s.spelling ++ rest →
      s'.spelling.length ≤ s.spelling.length) :
    step (s.spelling ++ rest) = .ofSymbol s := by
  -- Only `=` and `!` start a longer symbol. The step looks at one more character there.
  cases s with
  | assign =>
      have hnext : rest.head? ≠ some '=' := by
        intro h
        obtain ⟨more, rfl⟩ := List.head?_eq_some_iff.mp h
        exact absurd (hlongest .eq ⟨more, rfl⟩) (by decide)
      show Step.ofSymbol (if rest.head? = some '=' then .eq else .assign) = _
      rw [if_neg hnext]
  | bang =>
      have hnext : rest.head? ≠ some '=' := by
        intro h
        obtain ⟨more, rfl⟩ := List.head?_eq_some_iff.mp h
        exact absurd (hlongest .notEq ⟨more, rfl⟩) (by decide)
      show Step.ofSymbol (if rest.head? = some '=' then .notEq else .bang) = _
      rw [if_neg hnext]
  | _ => rfl

/-- The kind of a word that is spelled like a keyword. -/
theorem Step.ofWord_keyword (k : Keyword) :
    Step.ofWord k.spelling = ⟨.token (.keyword k) none, k.spelling.length⟩ := by
  cases k <;> rfl

/-- The kind of a word that is spelled like no keyword. -/
theorem Step.ofWord_identifier {word : Text} (free : ∀ k : Keyword, k.spelling ≠ word) :
    Step.ofWord word = ⟨.token .identifier (some (.text word)), word.length⟩ := by
  have hnone : Keyword.ofSpelling? word = none := by
    rw [Keyword.ofSpelling?, List.find?_eq_none]
    intro k _ hk
    exact free k (beq_iff_eq.mp hk)
  simp only [Step.ofWord, Kind.ofWord, hnone]

end Scan

open Scan

/-! ### The step and the front -/

/-- The longest lexeme cannot be extended by the next character. -/
theorem LongestLexeme.not_extend {m rest : Text} (h : LongestLexeme (m ++ rest) m) {d : Char}
    (hd : rest.head? = some d) : ¬ Lexeme (m ++ [d]) := by
  intro hlex
  obtain ⟨more, rfl⟩ := List.head?_eq_some_iff.mp hd
  have hle := h.longest (m ++ [d]) ⟨more, by simp⟩ hlex
  rw [List.length_append, List.length_singleton] at hle
  omega

/-- The longest lexeme that is a word ends where word characters end. -/
theorem LongestLexeme.stopsAt_word {c : Char} {more rest : Text}
    (h : LongestLexeme (c :: more ++ rest) (c :: more)) (first : isWordStart c = true)
    (others : ∀ d ∈ more, isWordChar d = true) : StopsAt isWordChar rest := by
  intro d hd
  rw [← Bool.not_eq_true]
  intro hword
  refine h.not_extend hd (.word first ?_)
  exact List.forall_mem_append.mpr ⟨others, List.forall_mem_singleton.mpr hword⟩

/-- The longest lexeme that is a run of digits ends where digits end. -/
theorem LongestLexeme.stopsAt_digits {c : Char} {more rest : Text}
    (h : LongestLexeme (c :: more ++ rest) (c :: more)) (first : isDigit c = true)
    (others : ∀ d ∈ more, isDigit d = true) : StopsAt isDigit rest := by
  intro d hd
  rw [← Bool.not_eq_true]
  intro hdigit
  refine h.not_extend hd (.digits first ?_)
  exact List.forall_mem_append.mpr ⟨others, List.forall_mem_singleton.mpr hdigit⟩

/-- The step over the longest lexeme gives what the lexeme stands for. -/
theorem LongestLexeme.step_eq {t m : Text} {o : Outcome} (h : LongestLexeme t m)
    (denotes : Denotes m o) : step t = ⟨o, m.length⟩ := by
  obtain ⟨rest, rfl⟩ := h.front
  -- In each case the step stops where the lexeme does: if it could go on, the lexeme
  -- would not be the longest.
  cases denotes with
  | symbol s => exact step_symbol fun s' hs' => h.longest s'.spelling hs' (.symbol s')
  | keyword k =>
      obtain ⟨c, more, hk, first, others⟩ := k.spelling_isWord
      rw [← Step.ofWord_keyword, hk, List.cons_append]
      rw [hk] at h
      exact step_word first others (h.stopsAt_word first others)
  | @identifier c more first others free =>
      rw [← Step.ofWord_identifier free, List.cons_append]
      exact step_word first others (h.stopsAt_word first others)
  | @integer c more first others fits =>
      rw [List.cons_append, step_digits first others (h.stopsAt_digits first others),
        if_neg (Nat.not_lt.mpr fits)]
      rfl
  | @malformed c more first others large =>
      rw [List.cons_append, step_digits first others (h.stopsAt_digits first others),
        if_pos large]
      rfl
  | @string content closed =>
      rw [List.cons_append, List.append_assoc, List.singleton_append, step_quoted closed]
      simp

/-- A step takes what stands at the front. -/
theorem Front.step_eq {t m : Text} {o : Outcome} (h : Front t m o) : step t = ⟨o, m.length⟩ := by
  cases h with
  | lexeme longest denotes => exact longest.step_eq denotes
  | unterminated opened => exact step_open opened
  | @illegal c rest _ stray => exact step_stray stray rest

/-- A text with something at its front does not start with whitespace. -/
theorem Front.stopsAt_blank {t m : Text} {o : Outcome} (h : Front t m o) :
    StopsAt Text.isBlank t := by
  obtain ⟨c, more, rfl, ink⟩ := h.exists_head
  obtain ⟨rest, rfl⟩ := h.isPrefix
  intro d hd
  rw [← Option.some.inj hd]
  exact ink

/-- What a step takes is what stands at the front, and nothing else stands there. -/
theorem front_iff_step {c : Char} (ink : Text.isBlank c = false) {rest m : Text} {o : Outcome} :
    Front (c :: rest) m o ↔ m <+: c :: rest ∧ step (c :: rest) = ⟨o, m.length⟩ := by
  constructor
  · exact fun h => ⟨h.isPrefix, h.step_eq⟩
  · rintro ⟨hm, hstep⟩
    -- Something stands at the front, and the step takes it, so it is this.
    obtain ⟨m', o', h⟩ := exists_front ink rest
    rw [h.step_eq, Step.mk.injEq] at hstep
    have hsame : m' = m := by
      rw [List.prefix_iff_eq_take.mp hm, ← hstep.2, ← List.prefix_iff_eq_take.mp h.isPrefix]
    rw [← hsame, ← hstep.1]
    exact h

end MonkeyScan
