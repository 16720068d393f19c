import Mathlib.Data.Nat.Find
import MonkeyScan.Proofs.CharClass

/-!
# `MonkeyScan.Proofs.Lexeme`: the grammar of lexemes

The grammar is stated without the scanner. `Lexeme` says which texts are
lexemes: symbols, words, runs of digits, and strings with both quotes.
`Denotes` says what a lexeme stands for, and `Front` what stands at the front
of a text: its longest lexeme, or, where no lexeme starts, an open string or
a stray character.

* `exists_longestLexeme`: where a lexeme starts there is a longest one.
* `exists_front`: at the front of every text that starts with no whitespace
  something stands.
* `Front.append_blank`: whitespace after a text leaves the front as it is,
  unless the front is an open string.
-/

set_option autoImplicit false

namespace MonkeyScan

open Scan

/-! ### The grammar -/

/-- The lexemes of the language. -/
inductive Lexeme : Text → Prop where
  | symbol (s : Symbol) : Lexeme s.spelling
  | word {c : Char} {more : Text} (first : isWordStart c = true)
      (others : ∀ d ∈ more, isWordChar d = true) : Lexeme (c :: more)
  | digits {c : Char} {more : Text} (first : isDigit c = true)
      (others : ∀ d ∈ more, isDigit d = true) : Lexeme (c :: more)
  | quoted {content : Text} (closed : '"' ∉ content) : Lexeme ('"' :: (content ++ ['"']))

/-- The number that a run of digits is in base ten. -/
def decimalValue (digits : Text) : Nat :=
  Nat.ofDigitChars 10 digits 0

/-- What a lexeme stands for. A word that is reserved is a keyword and carries
no value. A number beyond the largest integer is a fault. -/
inductive Denotes : Text → Outcome → Prop where
  | symbol (s : Symbol) : Denotes s.spelling (.token (.symbol s) none)
  | keyword (k : Keyword) : Denotes k.spelling (.token (.keyword k) none)
  | identifier {c : Char} {more : Text} (first : isWordStart c = true)
      (others : ∀ d ∈ more, isWordChar d = true)
      (free : ∀ k : Keyword, k.spelling ≠ c :: more) :
      Denotes (c :: more) (.token .identifier (some (.text (c :: more))))
  | integer {c : Char} {more : Text} (first : isDigit c = true)
      (others : ∀ d ∈ more, isDigit d = true)
      (fits : decimalValue (c :: more) ≤ maxInteger) :
      Denotes (c :: more) (.token .integer (some (.number (decimalValue (c :: more)))))
  | malformed {c : Char} {more : Text} (first : isDigit c = true)
      (others : ∀ d ∈ more, isDigit d = true)
      (large : maxInteger < decimalValue (c :: more)) :
      Denotes (c :: more) (.fault .malformedInteger)
  | string {content : Text} (closed : '"' ∉ content) :
      Denotes ('"' :: (content ++ ['"'])) (.token .string (some (.text content)))

/-- `m` is the longest lexeme at the front of `t`. -/
structure LongestLexeme (t m : Text) : Prop where
  lexeme : Lexeme m
  front : m <+: t
  longest : ∀ w, w <+: t → Lexeme w → w.length ≤ m.length

/-- What stands at the front of a text, with the characters that it takes. -/
inductive Front : Text → Text → Outcome → Prop where
  | lexeme {t m : Text} {o : Outcome} (longest : LongestLexeme t m) (denotes : Denotes m o) :
      Front t m o
  | unterminated {rest : Text} (opened : '"' ∉ rest) :
      Front ('"' :: rest) ('"' :: rest) (.fault .unterminatedString)
  | illegal {c : Char} {rest : Text} (ink : Text.isBlank c = false)
      (stray : ∀ w, ¬ Lexeme (c :: w)) :
      Front (c :: rest) [c] (.token .illegal (some (.text [c])))

/-! ### Lexemes by their first character -/

namespace Lexeme

/-- The four kinds of lexeme, told apart by the first character. -/
theorem cons_cases {c : Char} {more : Text} (h : Lexeme (c :: more)) :
    (∃ s : Symbol, s.spelling = c :: more) ∨
    (isWordStart c = true ∧ ∀ d ∈ more, isWordChar d = true) ∨
    (isDigit c = true ∧ ∀ d ∈ more, isDigit d = true) ∨
    (c = '"' ∧ ∃ content, more = content ++ ['"'] ∧ '"' ∉ content) := by
  -- The index has to be a variable before the cases can be told apart.
  generalize hw : c :: more = w at h
  cases h with
  | symbol s => exact Or.inl ⟨s, rfl⟩
  | word first others =>
      obtain ⟨rfl, rfl⟩ := List.cons.inj hw
      exact Or.inr (Or.inl ⟨first, others⟩)
  | digits first others =>
      obtain ⟨rfl, rfl⟩ := List.cons.inj hw
      exact Or.inr (Or.inr (Or.inl ⟨first, others⟩))
  | @quoted content closed =>
      obtain ⟨rfl, rfl⟩ := List.cons.inj hw
      exact Or.inr (Or.inr (Or.inr ⟨rfl, content, rfl, closed⟩))

/-- A lexeme has a first character. -/
theorem ne_nil {w : Text} (h : Lexeme w) : w ≠ [] := by
  cases h with
  | symbol s => exact s.spelling_ne_nil
  | word | digits | quoted => exact List.cons_ne_nil _ _

/-- A lexeme that starts with a quote runs to the next quote. -/
theorem of_quote {more : Text} (h : Lexeme ('"' :: more)) :
    ∃ content, more = content ++ ['"'] ∧ '"' ∉ content := by
  rcases h.cons_cases with ⟨s, hs⟩ | ⟨hword, -⟩ | ⟨hdigit, -⟩ | ⟨-, hquoted⟩
  · exact absurd rfl (Symbol.head_apart hs).2.2.2
  · exact absurd hword (by decide)
  · exact absurd hdigit (by decide)
  · exact hquoted

/-- A lexeme does not start with whitespace. -/
theorem head_ink {c : Char} {more : Text} (h : Lexeme (c :: more)) :
    Text.isBlank c = false := by
  rcases h.cons_cases with ⟨s, hs⟩ | ⟨hword, -⟩ | ⟨hdigit, -⟩ | ⟨rfl, -⟩
  · exact (Symbol.head_apart hs).1
  · exact isBlank_eq_false_of_isWordChar (isWordChar_of_isWordStart hword)
  · exact isBlank_eq_false_of_isDigit hdigit
  · decide

/-- A lexeme with whitespace in it is a string. -/
theorem eq_quoted_of_blank_mem {w : Text} (h : Lexeme w) {x : Char}
    (hx : Text.isBlank x = true) (hmem : x ∈ w) :
    ∃ content, w = '"' :: (content ++ ['"']) ∧ '"' ∉ content := by
  cases h with
  | symbol s =>
      rw [(Symbol.char_apart hmem).1] at hx
      exact absurd hx Bool.false_ne_true
  | word first others =>
      have hword : isWordChar x = true := by
        rcases List.mem_cons.mp hmem with rfl | hmore
        · exact isWordChar_of_isWordStart first
        · exact others x hmore
      rw [isBlank_eq_false_of_isWordChar hword] at hx
      exact absurd hx Bool.false_ne_true
  | digits first others =>
      have hdigit : isDigit x = true := by
        rcases List.mem_cons.mp hmem with rfl | hmore
        · exact first
        · exact others x hmore
      rw [isBlank_eq_false_of_isDigit hdigit] at hx
      exact absurd hx Bool.false_ne_true
  | @quoted content closed => exact ⟨content, rfl, closed⟩

/-- Unless it is a quote, a character that starts a lexeme is one by itself. -/
theorem singleton {c : Char} {more : Text} (h : Lexeme (c :: more)) (hc : c ≠ '"') :
    Lexeme [c] := by
  rcases h.cons_cases with ⟨s, hs⟩ | ⟨hword, -⟩ | ⟨hdigit, -⟩ | ⟨hquote, -⟩
  · obtain ⟨s', hs'⟩ := Symbol.exists_spelling_singleton (List.mem_of_mem_head? (by rw [hs]; rfl))
    rw [← hs']
    exact .symbol s'
  · exact .word hword (by simp)
  · exact .digits hdigit (by simp)
  · exact absurd hquote hc

/-- No lexeme is a proper prefix of a string. -/
theorem eq_of_prefix_quoted {w content : Text} (h : Lexeme w) (hclosed : '"' ∉ content)
    (hw : w <+: '"' :: (content ++ ['"'])) : w = '"' :: (content ++ ['"']) := by
  obtain ⟨c, more, rfl⟩ := List.exists_cons_of_ne_nil h.ne_nil
  obtain ⟨rfl, hmore⟩ := List.cons_prefix_cons.mp hw
  obtain ⟨inner, rfl, -⟩ := h.of_quote
  refine hw.eq_of_length_le ?_
  -- Were it shorter, its closing quote would stand in the content.
  rcases Nat.lt_or_ge content.length (inner ++ ['"']).length with hlong | hshort
  · simp only [List.length_cons, List.length_append, List.length_nil] at hlong ⊢
    omega
  · have hinner : inner ++ ['"'] <+: content :=
      List.prefix_of_prefix_length_le hmore (List.prefix_append _ _) hshort
    exact absurd (hinner.subset (List.mem_append_right _ List.mem_cons_self)) hclosed

/-- Every lexeme stands for something. -/
theorem exists_denotes {w : Text} (h : Lexeme w) : ∃ o, Denotes w o := by
  cases h with
  | symbol s => exact ⟨_, .symbol s⟩
  | @word c more first others =>
      by_cases hkey : ∃ k : Keyword, k.spelling = c :: more
      · obtain ⟨k, hk⟩ := hkey
        rw [← hk]
        exact ⟨_, .keyword k⟩
      · exact ⟨_, .identifier first others fun k hk => hkey ⟨k, hk⟩⟩
  | @digits c more first others =>
      rcases Nat.lt_or_ge maxInteger (decimalValue (c :: more)) with hlarge | hfits
      · exact ⟨_, .malformed first others hlarge⟩
      · exact ⟨_, .integer first others hfits⟩
  | quoted closed => exact ⟨_, .string closed⟩

end Lexeme

/-- Only lexemes stand for something. -/
theorem Denotes.lexeme {w : Text} {o : Outcome} (h : Denotes w o) : Lexeme w := by
  cases h with
  | symbol s => exact .symbol s
  | keyword k =>
      obtain ⟨c, more, hk, first, others⟩ := k.spelling_isWord
      rw [hk]
      exact .word first others
  | identifier first others => exact .word first others
  | integer first others => exact .digits first others
  | malformed first others => exact .digits first others
  | string closed => exact .quoted closed

/-! ### What stands at the front -/

/-- Where some prefix is a lexeme there is a longest one. -/
theorem exists_longestLexeme {t w : Text} (hw : w <+: t) (h : Lexeme w) :
    ∃ m, LongestLexeme t m := by
  classical
  -- A prefix is known by its length, so look for the greatest length of a lexeme.
  let fits (n : Nat) : Prop := Lexeme (t.take n)
  have hstart : fits w.length := by
    show Lexeme (t.take w.length)
    rw [← List.prefix_iff_eq_take.mp hw]
    exact h
  have hspec : fits (Nat.findGreatest fits t.length) :=
    Nat.findGreatest_spec hw.length_le hstart
  refine ⟨t.take (Nat.findGreatest fits t.length), hspec, List.take_prefix _ _, ?_⟩
  intro v hv hlex
  have hfits : fits v.length := by
    show Lexeme (t.take v.length)
    rw [← List.prefix_iff_eq_take.mp hv]
    exact hlex
  rw [List.length_take, Nat.min_eq_left (Nat.findGreatest_le _)]
  exact Nat.le_findGreatest hv.length_le hfits

/-- A string whose closing quote is there is a lexeme at the front. -/
theorem exists_lexeme_of_closed {rest : Text} (h : '"' ∈ rest) :
    ∃ w, w <+: '"' :: rest ∧ Lexeme w := by
  obtain ⟨content, after, rfl, hclosed⟩ := List.eq_append_cons_of_mem h
  exact ⟨'"' :: (content ++ ['"']), ⟨after, by simp⟩, .quoted hclosed⟩

/-- Something stands at the front of a text that starts with no whitespace. -/
theorem exists_front {c : Char} (ink : Text.isBlank c = false) (rest : Text) :
    ∃ m o, Front (c :: rest) m o := by
  by_cases hlex : ∃ w, w <+: c :: rest ∧ Lexeme w
  · obtain ⟨w, hw, h⟩ := hlex
    obtain ⟨m, hm⟩ := exists_longestLexeme hw h
    obtain ⟨o, ho⟩ := hm.lexeme.exists_denotes
    exact ⟨m, o, .lexeme hm ho⟩
  by_cases hquote : c = '"'
  · subst hquote
    exact ⟨_, _, .unterminated fun h => hlex (exists_lexeme_of_closed h)⟩
  · -- Any lexeme that `c` starts, `c` alone is, and that is a prefix here.
    refine ⟨_, _, .illegal ink fun w h => hlex ⟨[c], ⟨rest, rfl⟩, h.singleton hquote⟩⟩

namespace Front

variable {t m : Text} {o : Outcome}

/-- What stands at the front is a prefix. -/
theorem isPrefix (h : Front t m o) : m <+: t := by
  cases h with
  | lexeme longest _ => exact longest.front
  | unterminated => exact List.prefix_rfl
  | @illegal c rest => exact ⟨rest, rfl⟩

/-- What stands at the front starts with a character that is no whitespace. -/
theorem exists_head (h : Front t m o) :
    ∃ c more, m = c :: more ∧ Text.isBlank c = false := by
  cases h with
  | lexeme longest _ =>
      obtain ⟨c, more, rfl⟩ := List.exists_cons_of_ne_nil longest.lexeme.ne_nil
      exact ⟨c, more, rfl, longest.lexeme.head_ink⟩
  | unterminated => exact ⟨'"', _, rfl, by decide⟩
  | illegal ink => exact ⟨_, [], rfl, ink⟩

/-- Whitespace after a text, and all that follows it, leaves the front as it
is, unless the front is a string that is still open. -/
theorem append_blank (h : Front t m o) (hopen : o ≠ .fault .unterminatedString) {x : Char}
    (hx : Text.isBlank x = true) (after : Text) : Front (t ++ x :: after) m o := by
  cases h with
  | unterminated => exact absurd rfl hopen
  | illegal ink stray => exact .illegal ink stray
  | lexeme longest denotes =>
      refine .lexeme ⟨longest.lexeme, longest.front.trans (List.prefix_append _ _), ?_⟩ denotes
      intro w hw hlex
      rcases Nat.lt_or_ge t.length w.length with hlong | hshort
      · -- A longer lexeme has the blank in it, so it is a string, and the longest lexeme
        -- of the text alone is a prefix of it. But no string is a proper prefix of another.
        have hmem : x ∈ w := by
          have hstep : t ++ [x] <+: w :=
            List.prefix_of_prefix_length_le ⟨after, by simp⟩ hw
              (by rw [List.length_append]; exact hlong)
          exact hstep.subset (List.mem_append_right _ List.mem_cons_self)
        obtain ⟨content, rfl, hclosed⟩ := hlex.eq_quoted_of_blank_mem hx hmem
        have hm : m <+: '"' :: (content ++ ['"']) :=
          longest.front.trans
            (List.prefix_of_prefix_length_le (List.prefix_append _ _) hw (Nat.le_of_lt hlong))
        have hle : m.length ≤ t.length := longest.front.length_le
        rw [longest.lexeme.eq_of_prefix_quoted hclosed hm] at hle
        exact absurd hlong (Nat.not_lt.mpr hle)
      · exact longest.longest w
          (List.prefix_of_prefix_length_le hw (List.prefix_append _ _) hshort) hlex

end Front

end MonkeyScan
