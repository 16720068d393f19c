import MonkeyScan.Text.Utf8

/-!
# `MonkeyScan.Proofs.Utf8`: written text is read back

The bytes of every text decode to that text. A character is written in one of four
widths; its first byte announces how many bytes follow and between which bounds the
first of them lies. The bounds shut out overlong forms and surrogates, and what is
written for a character never needs one.

* `readTails_cons`, `readTails_zero`: the bytes behind the first, one at a time.
* `readChar_encodeChar`: one character, whatever follows it.
* `decode_encode`: a whole text.
-/

set_option autoImplicit false

namespace MonkeyScan.Text.Utf8

/-! ### Single bytes -/

/-- The value of a first byte that is small enough to be one. -/
theorem toNat_ofNat {n : Nat} (h : n < 256) : (UInt8.ofNat n).toNat = n := by
  rw [UInt8.toNat_ofNat']
  exact Nat.mod_eq_of_lt h

/-- The value of a byte that carries six bits. -/
theorem toNat_tail (n : Nat) : (UInt8.ofNat (0x80 + n % 0x40)).toNat = 0x80 + n % 0x40 :=
  toNat_ofNat (by omega)

/-- The code points of characters leave out the surrogates. -/
theorem toNat_isValid (c : Char) : c.toNat < 0xd800 ∨ (0xdfff < c.toNat ∧ c.toNat < 0x110000) :=
  c.valid

/-! ### Characters -/

/-- Where no byte is left to read, what was read so far is the value. -/
theorem readTails_zero {low high value n : Nat} {rest : List UInt8} (h : value = n) :
    readTails 0 low high value rest = .ok n := by
  simp [readTails, h]

/-- A byte within the bounds adds its six bits. -/
theorem readTails_cons {tails low high value n bits : Nat} {b : UInt8} {rest : List UInt8}
    (hb : b.toNat = 0x80 + bits) (hlow : low ≤ 0x80 + bits) (hhigh : 0x80 + bits ≤ high)
    (h : readTails tails 0x80 0xbf (64 * value + bits) rest = .ok n) :
    readTails (tails + 1) low high value (b :: rest) = .ok n := by
  simp only [readTails, hb]
  rw [if_pos ⟨hlow, hhigh⟩, Nat.add_sub_cancel_left, h]

/-- A character is read from a first byte and the bytes that this announces. -/
theorem readChar_of_lead {b : UInt8} {share tails low high : Nat} {c : Char}
    {rest : List UInt8} (hlead : Lead.ofByte? b = some ⟨share, tails, low, high⟩)
    (h : readTails tails low high share rest = .ok c.toNat) :
    readChar b rest = .ok (c, tails) := by
  simp only [readChar, hlead, h, Char.ofNat_toNat]

section
variable {n : Nat}

/-- What the first of one byte announces. -/
theorem ofByte?_one (h : n < 0x80) :
    Lead.ofByte? (UInt8.ofNat n) = some ⟨n, 0, 0x80, 0xbf⟩ := by
  simp only [Lead.ofByte?, toNat_ofNat (show n < 256 by omega)]
  rw [if_pos h]

/-- What the first of two bytes announces. -/
theorem ofByte?_two (hlow : 0x80 ≤ n) (hhigh : n < 0x800) :
    Lead.ofByte? (UInt8.ofNat (0xc0 + n / 0x40)) = some ⟨n / 0x40, 1, 0x80, 0xbf⟩ := by
  simp only [Lead.ofByte?, toNat_ofNat (show 0xc0 + n / 0x40 < 256 by omega)]
  rw [if_neg (by omega), if_neg (by omega), if_pos (by omega), Nat.add_sub_cancel_left]

/-- What the first of three bytes announces. -/
theorem ofByte?_three (hhigh : n < 0x10000) :
    Lead.ofByte? (UInt8.ofNat (0xe0 + n / 0x1000)) =
      some ⟨n / 0x1000, 2, if n / 0x1000 = 0 then 0xa0 else 0x80,
        if n / 0x1000 = 0xd then 0x9f else 0xbf⟩ := by
  have hfirst : 0xe0 + n / 0x1000 = 0xe0 ↔ n / 0x1000 = 0 := by omega
  have hlast : 0xe0 + n / 0x1000 = 0xed ↔ n / 0x1000 = 0xd := by omega
  simp only [Lead.ofByte?, toNat_ofNat (show 0xe0 + n / 0x1000 < 256 by omega), hfirst, hlast]
  rw [if_neg (by omega), if_neg (by omega), if_neg (by omega), if_pos (by omega),
    Nat.add_sub_cancel_left]

/-- What the first of four bytes announces. -/
theorem ofByte?_four (hhigh : n < 0x110000) :
    Lead.ofByte? (UInt8.ofNat (0xf0 + n / 0x40000)) =
      some ⟨n / 0x40000, 3, if n / 0x40000 = 0 then 0x90 else 0x80,
        if n / 0x40000 = 4 then 0x8f else 0xbf⟩ := by
  have hfirst : 0xf0 + n / 0x40000 = 0xf0 ↔ n / 0x40000 = 0 := by omega
  have hlast : 0xf0 + n / 0x40000 = 0xf4 ↔ n / 0x40000 = 4 := by omega
  simp only [Lead.ofByte?, toNat_ofNat (show 0xf0 + n / 0x40000 < 256 by omega), hfirst, hlast]
  rw [if_neg (by omega), if_neg (by omega), if_neg (by omega), if_neg (by omega),
    if_pos (by omega), Nat.add_sub_cancel_left]

end

/-- The bytes of a character are a first byte and others, and they read as that
character, whatever follows. -/
theorem readChar_encodeChar (c : Char) (more : List UInt8) :
    ∃ b tails, encodeChar c = b :: tails ∧
      readChar b (tails ++ more) = .ok (c, tails.length) := by
  have hvalid := toNat_isValid c
  by_cases h1 : c.toNat < 0x80
  · exact ⟨_, [], if_pos h1, readChar_of_lead (ofByte?_one h1) (readTails_zero rfl)⟩
  by_cases h2 : c.toNat < 0x800
  · refine ⟨_, _, (if_neg h1).trans (if_pos h2), ?_⟩
    refine readChar_of_lead (ofByte?_two (by omega) h2) ?_
    refine readTails_cons (toNat_tail _) (by omega) (by omega) ?_
    exact readTails_zero (by omega)
  by_cases h3 : c.toNat < 0x10000
  · refine ⟨_, _, (if_neg h1).trans ((if_neg h2).trans (if_pos h3)), ?_⟩
    refine readChar_of_lead (ofByte?_three h3) ?_
    -- The narrower bounds on the second byte hold: the form is not overlong, and the
    -- character is no surrogate.
    refine readTails_cons (toNat_tail _) (by split <;> omega) (by split <;> omega) ?_
    refine readTails_cons (toNat_tail _) (by omega) (by omega) ?_
    exact readTails_zero (by omega)
  · refine ⟨_, _, (if_neg h1).trans ((if_neg h2).trans (if_neg h3)), ?_⟩
    refine readChar_of_lead (ofByte?_four (by omega)) ?_
    refine readTails_cons (toNat_tail _) (by split <;> omega) (by split <;> omega) ?_
    refine readTails_cons (toNat_tail _) (by omega) (by omega) ?_
    refine readTails_cons (toNat_tail _) (by omega) (by omega) ?_
    exact readTails_zero (by omega)

/-! ### Texts -/

/-- A text that is written from some position on reads as that text. -/
theorem decodeFrom_encode (start : Nat) (t : Text) : decodeFrom start (encode t) = .ok t := by
  induction t generalizing start with
  | nil =>
      show decodeFrom start [] = .ok []
      rw [decodeFrom]
  | cons c rest ih =>
      obtain ⟨b, tails, hbytes, hread⟩ := readChar_encodeChar c (encode rest)
      show decodeFrom start (encodeChar c ++ encode rest) = .ok (c :: rest)
      rw [hbytes, List.cons_append, decodeFrom, hread]
      simp only [List.drop_left, ih]

/-- What is written decodes to what it was written from. -/
theorem decode_encode (t : Text) : decode (encode t) = .ok t :=
  decodeFrom_encode 0 t

end MonkeyScan.Text.Utf8
