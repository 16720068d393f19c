import MonkeyScan.Scan

/-!
# `MonkeyScan.Proofs.CharClass`: the character classes overlap in one place only

The scanner decides by the first character what kind of lexeme stands at the
front of a text, and a lexeme ends at the first character that cannot go on
it. Both are sound because the classes are apart:

* `isAlphabetic_eq_false_of_isBlank`: no whitespace is a letter, by comparing
  the two tables of ranges.
* `isWordChar_of_isWordStart`: the one overlap. What may start a word may go
  on it, since the ASCII letters are letters.
* `isBlank_eq_false_of_isWordChar`, `isBlank_eq_false_of_isDigit`,
  `isDigit_eq_false_of_isWordStart`: words, digits and whitespace are apart.
* `Symbol.char_apart`: the characters of a symbol are in no class, and none is
  a quote.
-/

set_option autoImplicit false

namespace MonkeyScan

open Scan

/-! ### Ranges -/

namespace Text

/-- Whether every range of one table ends before or starts after every range of
the other. -/
def CodeRanges.apart (a b : CodeRanges) : Bool :=
  a.all fun r => b.all fun s => decide (r.2 < s.1) || decide (s.2 < r.1)

/-- A character is in one at most of two tables that are apart. -/
theorem CodeRanges.has_eq_false_of_apart {a b : CodeRanges} (hab : a.apart b = true)
    {c : Char} (hc : a.has c = true) : b.has c = false := by
  rw [CodeRanges.has, List.any_eq_true] at hc
  obtain ⟨r, hr, hrc⟩ := hc
  rw [CodeRanges.has, List.any_eq_false]
  intro s hs
  have hrs := List.all_eq_true.mp (List.all_eq_true.mp hab r hr) s hs
  simp only [Bool.and_eq_true, Bool.or_eq_true, decide_eq_true_eq] at hrc hrs ⊢
  omega

/-- A character within a range of a table is in the table. -/
theorem CodeRanges.has_of_mem {a : CodeRanges} {c : Char} {r : Nat × Nat} (hr : r ∈ a)
    (hlow : r.1 ≤ c.toNat) (hhigh : c.toNat ≤ r.2) : a.has c = true := by
  rw [CodeRanges.has, List.any_eq_true]
  exact ⟨r, hr, by simp only [hlow, hhigh, decide_true, Bool.and_self]⟩

/-- No whitespace is a letter. -/
theorem isAlphabetic_eq_false_of_isBlank {c : Char} (hc : isBlank c = true) :
    isAlphabetic c = false := by
  have hapart : blankRanges.apart alphabeticRanges = true := by decide +kernel
  exact CodeRanges.has_eq_false_of_apart hapart hc

/-- A character that is not whitespace is other than one that is. -/
theorem ne_of_isBlank {c d : Char} (hc : isBlank c = false) (hd : isBlank d = true) : c ≠ d := by
  rintro rfl
  rw [hc] at hd
  exact Bool.false_ne_true hd

/-- The code points of the ASCII letters. -/
theorem isAlpha_iff {c : Char} :
    c.isAlpha = true ↔ (65 ≤ c.toNat ∧ c.toNat ≤ 90) ∨ (97 ≤ c.toNat ∧ c.toNat ≤ 122) := by
  have hupper : c.isUpper = (decide (65 ≤ c.val) && decide (c.val ≤ 90)) := by
    simp only [← Bool.decide_and]
    rfl
  have hlower : c.isLower = (decide (97 ≤ c.val) && decide (c.val ≤ 122)) := rfl
  show (c.isUpper || c.isLower) = true ↔ _
  rw [hupper, hlower]
  simp [UInt32.le_iff_toNat_le]

/-- An ASCII letter is a letter. -/
theorem isAlphabetic_of_isAlpha {c : Char} (hc : c.isAlpha = true) : isAlphabetic c = true := by
  rcases isAlpha_iff.mp hc with ⟨hlow, hhigh⟩ | ⟨hlow, hhigh⟩
  · exact CodeRanges.has_of_mem (r := (0x0041, 0x005a)) (by decide) hlow hhigh
  · exact CodeRanges.has_of_mem (r := (0x0061, 0x007a)) (by decide) hlow hhigh

end Text

/-! ### Words, digits and whitespace -/

namespace Scan

/-- The code points of the digits. -/
theorem isDigit_iff {c : Char} : isDigit c = true ↔ 48 ≤ c.toNat ∧ c.toNat ≤ 57 := by
  simp [isDigit, Char.isDigit, UInt32.le_iff_toNat_le]

/-- What may start a word may go on it. -/
theorem isWordChar_of_isWordStart {c : Char} (hc : isWordStart c = true) :
    isWordChar c = true := by
  rw [isWordStart, Bool.or_eq_true] at hc
  rw [isWordChar, Bool.or_eq_true]
  exact hc.imp Text.isAlphabetic_of_isAlpha id

/-- No character of a word is whitespace. -/
theorem isBlank_eq_false_of_isWordChar {c : Char} (hc : isWordChar c = true) :
    Text.isBlank c = false := by
  rw [isWordChar, Bool.or_eq_true, beq_iff_eq] at hc
  rcases hc with hletter | rfl
  · cases hblank : Text.isBlank c with
    | false => rfl
    | true =>
        rw [Text.isAlphabetic_eq_false_of_isBlank hblank] at hletter
        exact absurd hletter Bool.false_ne_true
  · decide

/-- No digit is whitespace. -/
theorem isBlank_eq_false_of_isDigit {c : Char} (hc : isDigit c = true) :
    Text.isBlank c = false := by
  have hcode := isDigit_iff.mp hc
  rw [Text.isBlank, Text.CodeRanges.has, List.any_eq_false]
  intro r hr
  -- Each range of whitespace lies below the digits or above them.
  have hapart : r.2 < 48 ∨ 57 < r.1 := by
    revert r
    decide
  simp only [Bool.and_eq_true, decide_eq_true_eq]
  omega

/-- No word starts with a digit. -/
theorem isDigit_eq_false_of_isWordStart {c : Char} (hc : isWordStart c = true) :
    isDigit c = false := by
  cases hdigit : isDigit c with
  | false => rfl
  | true =>
      have hcode := isDigit_iff.mp hdigit
      rw [isWordStart, Bool.or_eq_true, beq_iff_eq] at hc
      rcases hc with hletter | rfl
      · have hrange := Text.isAlpha_iff.mp hletter
        omega
      · exact absurd hdigit (by decide)

/-- No word goes on with a digit. -/
theorem isDigit_eq_false_of_isWordChar {c : Char} (hc : isWordChar c = true) :
    isDigit c = false := by
  rw [isWordChar, Bool.or_eq_true, beq_iff_eq] at hc
  rcases hc with hletter | rfl
  · have hnot := Text.CodeRanges.has_eq_false_of_apart
      (by decide +kernel : Text.alphabeticRanges.apart [(48, 57)] = true) hletter
    rw [← Bool.not_eq_true] at hnot ⊢
    refine mt (fun hdigit => ?_) hnot
    have hcode := isDigit_iff.mp hdigit
    exact Text.CodeRanges.has_of_mem List.mem_cons_self hcode.1 hcode.2
  · decide

end Scan

/-! ### Symbols -/

namespace Symbol

/-- Every symbol is listed. -/
theorem mem_all (s : Symbol) : s ∈ all := by
  cases s <;> decide

/-- A symbol is written with one character or two. -/
theorem spelling_ne_nil (s : Symbol) : s.spelling ≠ [] := by
  cases s <;> decide

/-- No character of a symbol is whitespace, a digit, a quote, or the start of
a word. -/
theorem char_apart {s : Symbol} {c : Char} (hc : c ∈ s.spelling) :
    Text.isBlank c = false ∧ isWordStart c = false ∧ isDigit c = false ∧ c ≠ '"' := by
  -- Nineteen symbols of one or two characters: few enough to go through them all.
  have hall : (all.all fun s => s.spelling.all fun c =>
      !Text.isBlank c && !isWordStart c && !isDigit c && c != '"') = true := by
    decide
  have hchar := List.all_eq_true.mp (List.all_eq_true.mp hall s s.mem_all) c hc
  simp only [Bool.and_eq_true, Bool.not_eq_true', bne_iff_ne, and_assoc] at hchar
  exact hchar

/-- The same of the first character. -/
theorem head_apart {s : Symbol} {c : Char} {more : Text} (hs : s.spelling = c :: more) :
    Text.isBlank c = false ∧ isWordStart c = false ∧ isDigit c = false ∧ c ≠ '"' :=
  char_apart (by rw [hs]; exact List.mem_cons_self)

/-- Each character of a symbol is a symbol by itself. -/
theorem exists_spelling_singleton {s : Symbol} {c : Char} (hc : c ∈ s.spelling) :
    ∃ s' : Symbol, s'.spelling = [c] := by
  have hall : (all.all fun s => s.spelling.all fun c =>
      all.any fun s' => s'.spelling == [c]) = true := by
    decide
  have hany := List.all_eq_true.mp (List.all_eq_true.mp hall s s.mem_all) c hc
  obtain ⟨s', -, hs'⟩ := List.any_eq_true.mp hany
  exact ⟨s', beq_iff_eq.mp hs'⟩

end Symbol

/-- A keyword is written as a word. -/
theorem Keyword.spelling_isWord (k : Keyword) :
    ∃ c more, k.spelling = c :: more ∧ isWordStart c = true ∧
      ∀ d ∈ more, isWordChar d = true := by
  cases k <;> exact ⟨_, _, rfl, by decide, List.all_eq_true.mp (by decide)⟩

end MonkeyScan
