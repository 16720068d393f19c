import MonkeyScan.Proofs.Step
import MonkeyScan.Text.Hex

/-!
# `MonkeyScan.Proofs.Numeral`: numerals are read back

Listings write numbers with as many digits as they have, and escapes write code points
with a fixed number of hexadecimal digits. Both are read back from the front of a text,
the first because a numeral ends where no digit follows, the second because its width is
known.

Decimal numerals are strict: there is at least one digit, and none but `0` starts with a
zero. `IsNumeral` and `IsInteger` say so, and `readNat` and `readInt` read these and
nothing else.

* `IsInteger.readInt_append`, `exists_isInteger_of_readInt`: what is read, from both sides.
* `isInteger_ofInt`: what is written.
* `hexNat?_hexDigits`: a hexadecimal numeral that is wide enough.
* `isPrintableAscii_of_mem_ofInt`, `isPrintableAscii_of_mem_hexDigits`: what both are
  written with.
-/

set_option autoImplicit false

namespace MonkeyScan.Text

open Scan (isDigit isDigit_iff StopsAt takeWhile_run dropWhile_run)

/-- Whether `c` is in ASCII and no control character. -/
def isPrintableAscii (c : Char) : Bool :=
  decide (0x20 ≤ c.toNat) && decide (c.toNat ≤ 0x7e)

/-- The code points of printable ASCII. -/
theorem isPrintableAscii_iff {c : Char} :
    isPrintableAscii c = true ↔ 0x20 ≤ c.toNat ∧ c.toNat ≤ 0x7e := by
  simp [isPrintableAscii]

/-- A rest that starts with a character that is not of the class cannot go on a run. -/
theorem stopsAt_cons {p : Char → Bool} {c : Char} (h : p c = false) (rest : Text) :
    StopsAt p (c :: rest) := by
  intro d hd
  exact Option.some.inj hd ▸ h

/-! ### Decimal numerals -/

/-- The texts that are numerals of `n`: digits, and no zero in front of others. -/
structure IsNumeral (n : Nat) (t : Text) : Prop where
  digits : ∀ c ∈ t, isDigit c = true
  nonempty : t ≠ []
  strict : t.head? = some '0' → t = ['0']
  value : decimalValue t = n

/-- The texts that are numerals of an integer. -/
inductive IsInteger : Int → Text → Prop where
  | natural {n : Nat} {t : Text} (numeral : IsNumeral n t) : IsInteger n t
  | negative {n : Nat} {t : Text} (numeral : IsNumeral n t) : IsInteger (-n) ('-' :: t)

/-- Reads a natural number from the front of a text. -/
def readNat (t : Text) : Option (Nat × Text) :=
  let digits := t.takeWhile isDigit
  if digits = [] ∨ (digits.head? = some '0' ∧ digits ≠ ['0']) then none
  else some (decimalValue digits, t.dropWhile isDigit)

/-- Reads an integer from the front of a text. -/
def readInt : Text → Option (Int × Text)
  | '-' :: t => (readNat t).map fun (n, rest) => (-(n : Int), rest)
  | t => (readNat t).map fun (n, rest) => ((n : Int), rest)

section
variable {n : Nat} {t rest : Text}

/-- A numeral is read where no digit follows it. -/
theorem IsNumeral.readNat_append (h : IsNumeral n t) (hrest : StopsAt isDigit rest) :
    readNat (t ++ rest) = some (n, rest) := by
  have hstrict : ¬ (t = [] ∨ (t.head? = some '0' ∧ t ≠ ['0'])) := by
    rintro (hnil | ⟨hhead, hne⟩)
    · exact h.nonempty hnil
    · exact hne (h.strict hhead)
  simp only [readNat, takeWhile_run h.digits hrest, dropWhile_run h.digits hrest,
    if_neg hstrict, h.value]

/-- What is read is a numeral. -/
theorem exists_isNumeral_of_readNat (h : readNat t = some (n, rest)) :
    ∃ run, t = run ++ rest ∧ IsNumeral n run := by
  simp only [readNat] at h
  split at h
  next => exact absurd h (by simp)
  next hstrict =>
    obtain ⟨hne, hzero⟩ := not_or.mp hstrict
    obtain ⟨hvalue, hrest⟩ := Prod.mk.inj (Option.some.inj h)
    refine ⟨t.takeWhile isDigit, ?_, ?_, hne, ?_, hvalue⟩
    · rw [← hrest, List.takeWhile_append_dropWhile]
    · exact fun c hc => List.mem_takeWhile_imp hc
    · intro hhead
      by_contra hother
      exact hzero ⟨hhead, hother⟩

/-- A numeral starts with a digit. -/
theorem IsNumeral.exists_cons (h : IsNumeral n t) :
    ∃ c more, t = c :: more ∧ isDigit c = true := by
  obtain ⟨c, more, rfl⟩ := List.exists_cons_of_ne_nil h.nonempty
  exact ⟨c, more, rfl, h.digits c List.mem_cons_self⟩

/-- The numeral of an integer starts with a minus sign or a digit. -/
theorem IsInteger.exists_cons {n : Int} (h : IsInteger n t) :
    ∃ c more, t = c :: more ∧ (c = '-' ∨ isDigit c = true) := by
  cases h with
  | natural numeral =>
      obtain ⟨c, more, ht, hc⟩ := numeral.exists_cons
      exact ⟨c, more, ht, .inr hc⟩
  | negative numeral => exact ⟨'-', _, rfl, .inl rfl⟩

/-- The numeral of an integer is read where no digit follows it. -/
theorem IsInteger.readInt_append {n : Int} (h : IsInteger n t) (hrest : StopsAt isDigit rest) :
    readInt (t ++ rest) = some (n, rest) := by
  cases h with
  | negative numeral =>
      rw [List.cons_append, readInt, numeral.readNat_append hrest]
      rfl
  | natural numeral =>
      -- A digit is in front, so the numeral is not taken for a negative one.
      have hsign : ∀ u, t ++ rest = '-' :: u → False := by
        intro u hu
        obtain ⟨c, more, rfl, hc⟩ := numeral.exists_cons
        rw [(List.cons.inj hu).1] at hc
        exact absurd hc (by decide)
      rw [readInt.eq_2 _ hsign, numeral.readNat_append hrest]
      rfl

/-- What is read is the numeral of an integer. -/
theorem exists_isInteger_of_readInt {n : Int} (h : readInt t = some (n, rest)) :
    ∃ run, t = run ++ rest ∧ IsInteger n run := by
  unfold readInt at h
  split at h
  next u =>
    obtain ⟨⟨m, behind⟩, hread, hm⟩ := Option.map_eq_some_iff.mp h
    obtain ⟨rfl, rfl⟩ := Prod.mk.inj hm
    obtain ⟨run, rfl, hrun⟩ := exists_isNumeral_of_readNat hread
    exact ⟨'-' :: run, rfl, .negative hrun⟩
  next =>
    obtain ⟨⟨m, behind⟩, hread, hm⟩ := Option.map_eq_some_iff.mp h
    obtain ⟨rfl, rfl⟩ := Prod.mk.inj hm
    obtain ⟨run, ht, hrun⟩ := exists_isNumeral_of_readNat hread
    exact ⟨run, ht, .natural hrun⟩

end

/-- A numeral is written with digits. -/
theorem isDigit_of_mem_ofNat {n : Nat} {c : Char} (hc : c ∈ ofNat n) : isDigit c = true :=
  Nat.isDigit_of_mem_toDigits (by decide) (by decide) hc

/-- Only the numeral of zero starts with a zero. -/
theorem eq_zero_of_head?_ofNat {n : Nat} (h : (ofNat n).head? = some '0') : n = 0 := by
  induction n using Nat.strongRecOn with
  | ind n ih =>
      rcases Nat.lt_or_ge n 10 with hsmall | hlarge
      · rw [ofNat, Nat.toDigits_of_lt_base hsmall] at h
        exact Nat.digitChar_eq_zero.mp (Option.some.inj h)
      · -- The first digit is that of the number without its last digit, which is not zero.
        have hinit := ih (n / 10) (by omega)
        obtain ⟨c, more, hcons⟩ :=
          List.exists_cons_of_ne_nil (Nat.toDigits_ne_nil (b := 10) (n := n / 10))
        rw [ofNat, hcons] at hinit
        rw [ofNat, Nat.toDigits_of_base_le (by decide) hlarge, hcons] at h
        have hzero := hinit h
        omega

/-- What is written for a natural number is its numeral. -/
theorem isNumeral_ofNat (n : Nat) : IsNumeral n (ofNat n) where
  digits _ hc := isDigit_of_mem_ofNat hc
  nonempty := Nat.toDigits_ne_nil
  strict h := by rw [eq_zero_of_head?_ofNat h]; rfl
  value := Nat.ofDigitChars_toDigits (by decide) (by decide)

/-- What is written for an integer is its numeral. -/
theorem isInteger_ofInt (n : Int) : IsInteger n (ofInt n) := by
  cases n with
  | ofNat n => exact .natural (isNumeral_ofNat n)
  | negSucc n => exact .negative (isNumeral_ofNat (n + 1))

/-- Decimal numerals are printable ASCII. -/
theorem isPrintableAscii_of_mem_ofInt {n : Int} {c : Char} (hc : c ∈ ofInt n) :
    isPrintableAscii c = true := by
  have hdigit {m : Nat} (hm : c ∈ ofNat m) : isPrintableAscii c = true := by
    have hcode := isDigit_iff.mp (isDigit_of_mem_ofNat hm)
    rw [isPrintableAscii_iff]
    omega
  cases n with
  | ofNat n => exact hdigit hc
  | negSucc n =>
      rcases List.mem_cons.mp hc with rfl | hc
      · decide
      · exact hdigit hc

/-! ### Hexadecimal numerals -/

/-- Each hexadecimal digit has its value. -/
theorem hexValue?_digitChar {d : Nat} (hd : d < 16) :
    hexValue? (Nat.digitChar d) = some d := by
  revert d
  decide

/-- A fixed width is that of the numeral. -/
theorem length_hexDigits (width n : Nat) : (hexDigits width n).length = width := by
  induction width generalizing n with
  | zero => rfl
  | succ width ih => simp [hexDigits, ih]

/-- One digit more at the end. -/
theorem hexNat?_concat (digits : Text) (c : Char) :
    hexNat? (digits ++ [c])
      = (hexNat? digits).bind fun n => (hexValue? c).bind fun d => some (16 * n + d) :=
  List.foldl_append

/-- A numeral of a fixed width has the value of that many digits. -/
theorem hexNat?_hexDigits_mod (width n : Nat) :
    hexNat? (hexDigits width n) = some (n % 16 ^ width) := by
  induction width generalizing n with
  | zero => simp [hexDigits, hexNat?, Nat.mod_one]
  | succ width ih =>
      -- The last digit is the remainder, the others are those of the quotient.
      have hlast := hexValue?_digitChar (Nat.mod_lt n (show 0 < 16 by decide))
      rw [hexDigits, hexNat?_concat, ih, hlast, Nat.pow_succ', Nat.mod_mul]
      simp [Nat.add_comm]

/-- A numeral that is wide enough is read back. -/
theorem hexNat?_hexDigits {width n : Nat} (h : n < 16 ^ width) :
    hexNat? (hexDigits width n) = some n := by
  rw [hexNat?_hexDigits_mod, Nat.mod_eq_of_lt h]

/-- Hexadecimal numerals are printable ASCII. -/
theorem isPrintableAscii_of_mem_hexDigits {width n : Nat} {c : Char}
    (hc : c ∈ hexDigits width n) : isPrintableAscii c = true := by
  have hdigit : ∀ d < 16, isPrintableAscii (Nat.digitChar d) = true := by decide
  induction width generalizing n with
  | zero => exact absurd hc List.not_mem_nil
  | succ width ih =>
      rw [hexDigits, List.mem_append, List.mem_singleton] at hc
      rcases hc with hc | rfl
      · exact ih hc
      · exact hdigit _ (Nat.mod_lt n (by decide))

end MonkeyScan.Text
