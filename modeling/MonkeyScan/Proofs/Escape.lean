import MonkeyScan.Proofs.Numeral
import MonkeyScan.Proofs.Utf8
import MonkeyScan.Text.Lines
import MonkeyScan.Text.Quoted

/-!
# `MonkeyScan.Proofs.Escape`: text between quotes is read back

Both listings write text between quotes and escape with a backslash what cannot stand
there as itself. They differ in the quote, in the letters that may follow the backslash,
and in what the numbers behind such a letter are: code points in one, UTF-16 code units
in the other. What they share takes the quote and the letters as parameters: `Body` says
which texts may stand between the quotes and for which numbers, before anything is made
of these, and `readCodes` reads such a text up to its closing quote.

A quoted text is read back because each of its characters is written in one of the ways
that `Body` allows, of which the writer knows six and `Body` three.

* `Body.readCodes_append`, `exists_body_of_readCodes`: what is read, from both sides.
* `ofCodes?_map_toNat`: code points make up the text that they are of.
* `escapeIn_cases`, `body_flatMap_escapeIn`: what is written.
* `readQuoted_quoted`: a quoted text is read back, whatever follows it.
* `isRowBreak_eq_false_of_mem_quoted`: it is on one row.
-/

set_option autoImplicit false

namespace MonkeyScan.Text

/-! ### The reader -/

/-- What a letter behind a backslash announces. -/
inductive Escape where
  /-- The two stand for a character. -/
  | character (c : Char)
  /-- The number that stands for a character follows, in hexadecimal. -/
  | digits (width : Nat)
  deriving DecidableEq, Repr

/-- The texts between quotes, without the quotes, and the numbers that they stand for.
`escape?` tells which letters may follow a backslash. -/
inductive Body (escape? : Char → Option Escape) (quote : Char) : List Nat → Text → Prop where
  | nil : Body escape? quote [] []
  /-- A character that is no control character stands for itself, the quote and the
  backslash apart. -/
  | plain {c : Char} {codes : List Nat} {t : Text} (unquoted : c ≠ quote) (unescaped : c ≠ '\\')
      (visible : 0x20 ≤ c.toNat) (more : Body escape? quote codes t) :
      Body escape? quote (c.toNat :: codes) (c :: t)
  | character {letter d : Char} {codes : List Nat} {t : Text}
      (announced : escape? letter = some (.character d)) (more : Body escape? quote codes t) :
      Body escape? quote (d.toNat :: codes) ('\\' :: letter :: t)
  | digits {letter : Char} {width n : Nat} {run : Text} {codes : List Nat} {t : Text}
      (announced : escape? letter = some (.digits width)) (length : run.length = width)
      (value : hexNat? run = some n) (more : Body escape? quote codes t) :
      Body escape? quote (n :: codes) ('\\' :: letter :: (run ++ t))

/-- A number in front of those that were read. -/
def withCode (code : Nat) (read : Option (List Nat × Text)) : Option (List Nat × Text) :=
  read.map fun (codes, rest) => (code :: codes, rest)

/-- Reads up to the closing quote and past it. -/
def readCodes (escape? : Char → Option Escape) (quote : Char) :
    Text → Option (List Nat × Text)
  | [] => none
  | c :: rest =>
    if c = quote then some ([], rest)
    else if c = '\\' then
      match rest with
      | [] => none
      | letter :: behind =>
        match escape? letter with
        | none => none
        | some (.character d) => withCode d.toNat (readCodes escape? quote behind)
        | some (.digits width) =>
          -- Fewer digits than announced are no number.
          if width ≤ behind.length then
            match hexNat? (behind.take width) with
            | none => none
            | some n => withCode n (readCodes escape? quote (behind.drop width))
          else none
    else if c.toNat < 0x20 then none
    else withCode c.toNat (readCodes escape? quote rest)
termination_by t => t.length
decreasing_by all_goals simp only [List.length_drop, List.length_cons]; omega

section
variable {escape? : Char → Option Escape} {quote : Char} {codes : List Nat} {t rest : Text}

/-- A number was put in front of others. -/
theorem withCode_eq_some {code : Nat} {read : Option (List Nat × Text)}
    (h : withCode code read = some (codes, rest)) :
    ∃ more, codes = code :: more ∧ read = some (more, rest) := by
  obtain ⟨⟨more, behind⟩, hread, hcodes⟩ := Option.map_eq_some_iff.mp h
  obtain ⟨rfl, rfl⟩ := Prod.mk.inj hcodes
  exact ⟨more, rfl, hread⟩

/-- What may stand between quotes is read, whatever follows it. -/
theorem Body.readCodes_append (h : Body escape? quote codes t) (hquote : quote ≠ '\\')
    (rest : Text) : readCodes escape? quote (t ++ quote :: rest) = some (codes, rest) := by
  induction h with
  | nil =>
      rw [List.nil_append, readCodes.eq_def]
      simp only [if_pos]
  | plain unquoted unescaped visible more ih =>
      rw [List.cons_append, readCodes.eq_def]
      simp only [if_neg unquoted, if_neg unescaped, if_neg (Nat.not_lt.mpr visible), ih]
      rfl
  | character announced more ih =>
      rw [List.cons_append, List.cons_append, readCodes, if_neg (Ne.symm hquote), if_pos rfl]
      simp only [announced, ih]
      rfl
  | @digits letter width n run codes t announced length value more ih =>
      have hle : width ≤ (run ++ (t ++ quote :: rest)).length := by
        rw [List.length_append, length]
        exact Nat.le_add_right _ _
      rw [List.cons_append, List.cons_append, List.append_assoc, readCodes,
        if_neg (Ne.symm hquote), if_pos rfl]
      simp only [announced, if_pos hle, List.take_left' length, List.drop_left' length, value, ih]
      rfl

/-- What is read is what may stand between quotes, and the closing quote. -/
theorem exists_body_of_readCodes (h : readCodes escape? quote t = some (codes, rest)) :
    ∃ body, t = body ++ quote :: rest ∧ Body escape? quote codes body := by
  fun_induction readCodes escape? quote t generalizing codes with
  -- The cases that go on are those of `Body`; in the others nothing is read.
  | case1 | case3 | case4 | case6 | case8 | case9 => exact absurd h (by simp)
  | case2 behind =>
      obtain ⟨rfl, rfl⟩ := Prod.mk.inj (Option.some.inj h)
      exact ⟨[], rfl, .nil⟩
  | case5 letter behind d announced _ ih =>
      obtain ⟨more, rfl, hread⟩ := withCode_eq_some h
      obtain ⟨body, rfl, hbody⟩ := ih hread
      exact ⟨'\\' :: letter :: body, rfl, .character announced hbody⟩
  | case7 letter behind width announced hle n value _ ih =>
      obtain ⟨more, rfl, hread⟩ := withCode_eq_some h
      obtain ⟨body, hdrop, hbody⟩ := ih hread
      refine ⟨'\\' :: letter :: (behind.take width ++ body), ?_,
        .digits announced (List.length_take_of_le hle) value hbody⟩
      rw [List.cons_append, List.cons_append, List.append_assoc, ← hdrop,
        List.take_append_drop]
  | case10 c behind unquoted unescaped visible ih =>
      obtain ⟨more, rfl, hread⟩ := withCode_eq_some h
      obtain ⟨body, rfl, hbody⟩ := ih hread
      exact ⟨c :: body, rfl, .plain unquoted unescaped (Nat.not_lt.mp visible) hbody⟩

end

/-! ### Code points -/

/-- The text of a list of code points, none of which may be a surrogate or too large. -/
def ofCodes? (codes : List Nat) : Option Text :=
  codes.mapM fun n => if n.isValidChar then some (Char.ofNat n) else none

/-- The code points of a text make it up. -/
theorem ofCodes?_map_toNat (t : Text) : ofCodes? (t.map Char.toNat) = some t := by
  have hchar (c : Char) : c.toNat.isValidChar := c.valid
  induction t with
  | nil => rfl
  | cons c more ih =>
      rw [ofCodes?] at ih
      rw [List.map_cons, ofCodes?, List.mapM_cons, ih, if_pos (hchar c), Char.ofNat_toNat]
      rfl

/-! ### Quoted text -/

/-- What may follow a backslash in a quoted text. -/
def shownEscape? : Char → Option Escape
  | '\\' => some (.character '\\')
  | '\'' => some (.character '\'')
  | '"' => some (.character '"')
  | 'n' => some (.character '\n')
  | 'r' => some (.character '\r')
  | 't' => some (.character '\t')
  | 'x' => some (.digits 2)
  | 'u' => some (.digits 4)
  | 'U' => some (.digits 8)
  | _ => none

/-- Reads a quoted text from the front of a text. -/
def readQuoted : Text → Option (Text × Text)
  | [] => none
  | quote :: t =>
    if quote = '\'' ∨ quote = '"' then
      (readCodes shownEscape? quote t).bind fun (codes, rest) =>
        (ofCodes? codes).map fun text => (text, rest)
    else none

/-- There are two quotes. -/
theorem quoteFor_eq (t : Text) : quoteFor t = '\'' ∨ quoteFor t = '"' := by
  rw [quoteFor]
  split
  · exact .inr rfl
  · exact .inl rfl

/-- Printable characters are no control characters. -/
theorem le_toNat_of_isPrintable {c : Char} (h : isPrintable c = true) : 0x20 ≤ c.toNat := by
  rw [isPrintable, Bool.not_eq_true'] at h
  by_contra hlt
  rw [CodeRanges.has_of_mem (r := (0x0000, 0x001f)) (by decide) (Nat.zero_le _)
    (show c.toNat ≤ 0x1f by omega)] at h
  exact Bool.noConfusion h

/-- Printable characters end no row. -/
theorem isRowBreak_eq_false_of_isPrintable {c : Char} (h : isPrintable c = true) :
    isRowBreak c = false := by
  rw [isPrintable, Bool.not_eq_true'] at h
  rw [← Bool.not_eq_true] at h ⊢
  refine mt (fun hbreak => ?_) h
  -- Each break lies in one of three of the ranges that are not printable.
  simp only [isRowBreak, Bool.or_eq_true, Bool.and_eq_true, decide_eq_true_eq,
    beq_iff_eq] at hbreak
  rcases hbreak with (((h | h) | h) | h) | h
  · exact CodeRanges.has_of_mem (r := (0x0000, 0x001f)) (by decide) (by omega) (by omega)
  · exact CodeRanges.has_of_mem (r := (0x0000, 0x001f)) (by decide) (by omega) (by omega)
  · exact CodeRanges.has_of_mem (r := (0x007f, 0x00a0)) (by decide) (by omega) (by omega)
  · exact CodeRanges.has_of_mem (r := (0x2028, 0x202f)) (by decide +kernel) (by omega) (by omega)
  · exact CodeRanges.has_of_mem (r := (0x2028, 0x202f)) (by decide +kernel) (by omega) (by omega)

/-- How a character is written in a quoted text: as itself, with a letter that stands for
it, or with one that announces its code point. -/
theorem escapeIn_cases {quote : Char} (hquote : quote = '\'' ∨ quote = '"') (c : Char) :
    (c ≠ quote ∧ c ≠ '\\' ∧ isPrintable c = true ∧ escapeIn quote c = [c]) ∨
    (∃ letter, shownEscape? letter = some (.character c) ∧ escapeIn quote c = ['\\', letter]) ∨
    (∃ letter width, shownEscape? letter = some (.digits width) ∧ c.toNat < 16 ^ width ∧
      escapeIn quote c = '\\' :: letter :: hexDigits width c.toNat) := by
  -- The cases are those of the writer, in its order.
  by_cases hself : c = quote ∨ c = '\\'
  · refine .inr (.inl ⟨c, ?_, by rw [escapeIn, if_pos hself]⟩)
    rcases hself with rfl | rfl
    · rcases hquote with rfl | rfl <;> rfl
    · rfl
  by_cases hfeed : c = '\n'
  · exact .inr (.inl ⟨'n', by rw [hfeed]; rfl, by rw [escapeIn, if_neg hself, if_pos hfeed]⟩)
  by_cases hreturn : c = '\r'
  · exact .inr (.inl ⟨'r', by rw [hreturn]; rfl,
      by rw [escapeIn, if_neg hself, if_neg hfeed, if_pos hreturn]⟩)
  by_cases htab : c = '\t'
  · exact .inr (.inl ⟨'t', by rw [htab]; rfl,
      by rw [escapeIn, if_neg hself, if_neg hfeed, if_neg hreturn, if_pos htab]⟩)
  rw [escapeIn, if_neg hself, if_neg hfeed, if_neg hreturn, if_neg htab]
  by_cases hprint : isPrintable c = true
  · obtain ⟨hne, hbackslash⟩ := not_or.mp hself
    exact .inl ⟨hne, hbackslash, hprint, if_pos hprint⟩
  -- The narrowest of the three widths that holds the code point.
  have hcode : c.toNat < 0x110000 := by
    have hvalid := Utf8.toNat_isValid c
    omega
  rw [if_neg hprint]
  by_cases hbyte : c.toNat < 0x100
  · exact .inr (.inr ⟨'x', 2, rfl, hbyte, if_pos hbyte⟩)
  rw [if_neg hbyte]
  by_cases hplane : c.toNat < 0x10000
  · exact .inr (.inr ⟨'u', 4, rfl, hplane, if_pos hplane⟩)
  · exact .inr (.inr ⟨'U', 8, rfl, Nat.lt_trans hcode (by decide), if_neg hplane⟩)

/-- A character that is written in a quoted text may stand there. -/
theorem body_escapeIn {quote : Char} (hquote : quote = '\'' ∨ quote = '"') (c : Char)
    {codes : List Nat} {t : Text} (more : Body shownEscape? quote codes t) :
    Body shownEscape? quote (c.toNat :: codes) (escapeIn quote c ++ t) := by
  rcases escapeIn_cases hquote c with
    ⟨hcquote, hbackslash, hprint, h⟩ | ⟨letter, hletter, h⟩ | ⟨letter, width, hletter, hn, h⟩
  · rw [h]
    exact .plain hcquote hbackslash (le_toNat_of_isPrintable hprint) more
  · rw [h]
    exact .character hletter more
  · rw [h]
    exact .digits hletter (length_hexDigits _ _) (hexNat?_hexDigits hn) more

/-- So may all the characters of a text. -/
theorem body_flatMap_escapeIn {quote : Char} (hquote : quote = '\'' ∨ quote = '"') (t : Text) :
    Body shownEscape? quote (t.map Char.toNat) (t.flatMap (escapeIn quote)) := by
  induction t with
  | nil => exact .nil
  | cons c more ih => exact body_escapeIn hquote c ih

/-- A quoted text is read back, whatever follows it. -/
theorem readQuoted_quoted (t rest : Text) : readQuoted (quoted t ++ rest) = some (t, rest) := by
  have hquote := quoteFor_eq t
  have hne : quoteFor t ≠ '\\' := by rcases hquote with h | h <;> rw [h] <;> decide
  have hread := (body_flatMap_escapeIn hquote t).readCodes_append hne rest
  simp only [quoted, List.cons_append, List.append_assoc, List.nil_append, readQuoted,
    if_pos hquote, hread, Option.bind_some, ofCodes?_map_toNat, Option.map_some]

/-- Printable ASCII ends no row. -/
theorem isRowBreak_eq_false_of_isPrintableAscii {c : Char} (h : isPrintableAscii c = true) :
    isRowBreak c = false := by
  have hcode := isPrintableAscii_iff.mp h
  simp only [isRowBreak, Bool.or_eq_false_iff, Bool.and_eq_false_iff, decide_eq_false_iff_not,
    beq_eq_false_iff_ne]
  omega

/-- The letters behind a backslash are printable ASCII. -/
theorem isPrintableAscii_of_shownEscape? {letter : Char} {e : Escape}
    (h : shownEscape? letter = some e) : isPrintableAscii letter = true := by
  unfold shownEscape? at h
  split at h
  case h_10 => exact absurd h (by simp)
  all_goals rfl

/-- What a character of a quoted text is written with ends no row. -/
theorem isRowBreak_eq_false_of_mem_escapeIn {quote c d : Char}
    (hquote : quote = '\'' ∨ quote = '"') (hd : d ∈ escapeIn quote c) :
    isRowBreak d = false := by
  rcases escapeIn_cases hquote c with
    ⟨-, -, hprint, h⟩ | ⟨letter, hletter, h⟩ | ⟨letter, width, hletter, -, h⟩
  · rw [h, List.mem_singleton] at hd
    exact hd ▸ isRowBreak_eq_false_of_isPrintable hprint
  · have hascii := isPrintableAscii_of_shownEscape? hletter
    simp only [h, List.mem_cons, List.not_mem_nil, or_false] at hd
    rcases hd with rfl | rfl
    · rfl
    · exact isRowBreak_eq_false_of_isPrintableAscii hascii
  · have hascii := isPrintableAscii_of_shownEscape? hletter
    simp only [h, List.mem_cons] at hd
    rcases hd with rfl | rfl | hd
    · rfl
    · exact isRowBreak_eq_false_of_isPrintableAscii hascii
    · exact isRowBreak_eq_false_of_isPrintableAscii (isPrintableAscii_of_mem_hexDigits hd)

/-- A quoted text is on one row. -/
theorem isRowBreak_eq_false_of_mem_quoted {t : Text} {d : Char} (hd : d ∈ quoted t) :
    isRowBreak d = false := by
  have hquote := quoteFor_eq t
  have hquoteRow : isRowBreak (quoteFor t) = false := by
    rcases hquote with h | h <;> rw [h] <;> rfl
  simp only [quoted, List.cons_append, List.mem_cons, List.mem_append, List.mem_flatMap,
    List.not_mem_nil, or_false] at hd
  rcases hd with rfl | ⟨c, -, hd⟩ | rfl
  · exact hquoteRow
  · exact isRowBreak_eq_false_of_mem_escapeIn hquote hd
  · exact hquoteRow

end MonkeyScan.Text
