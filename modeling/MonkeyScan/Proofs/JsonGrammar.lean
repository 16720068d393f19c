import MonkeyScan.Json.Printer
import MonkeyScan.Proofs.Escape

/-!
# `MonkeyScan.Proofs.JsonGrammar`: the grammar of JSON, and what is printed

`Document` says which texts are JSON for a value. White space may stand around every
bracket, comma and colon, a string may use every escape that there is, and names of
fields are strings. Numbers are integers, as in the values that are printed, so the
grammar is that of JSON without fractions and exponents.

A `\u` escape gives a UTF-16 code unit. Two of them that are a surrogate pair stand for
one character, and a surrogate without its partner stands for none.

The grammar does not know the layout of the printer: white space stands before an item
and behind it, while the printer puts a line break before each and one behind the last.

* `combinePairs_flatMap_units16`: code units make up the characters that they are of.
* `escape_cases`, `isString_quotedString`: strings that are printed.
* `written_pretty`: values that are printed.
* `document_pretty`: what is printed, with a line feed, is JSON for the value.
* `isPlain_of_mem_pretty`: it is written in ASCII.
-/

set_option autoImplicit false

namespace MonkeyScan.Json

open Text (Escape Body ofCodes? IsInteger isPrintableAscii)

/-! ### Strings -/

/-- What may follow a backslash in a string. -/
def stringEscape? : Char → Option Escape
  | '"' => some (.character '"')
  | '\\' => some (.character '\\')
  | '/' => some (.character '/')
  | 'b' => some (.character (Char.ofNat 0x08))
  | 'f' => some (.character (Char.ofNat 0x0c))
  | 'n' => some (.character '\n')
  | 'r' => some (.character '\r')
  | 't' => some (.character '\t')
  | 'u' => some (.digits 4)
  | _ => none

/-- Code units with one code point in place of each surrogate pair. -/
def combinePairs : List Nat → List Nat
  | high :: low :: rest =>
    if (0xd800 ≤ high ∧ high < 0xdc00) ∧ 0xdc00 ≤ low ∧ low < 0xe000 then
      (0x10000 + 0x400 * (high - 0xd800) + (low - 0xdc00)) :: combinePairs rest
    else high :: combinePairs (low :: rest)
  | units => units

/-- The texts that are a string, with its quotes. -/
def IsString (s t : Text) : Prop :=
  ∃ units body, Body stringEscape? '"' units body ∧ ofCodes? (combinePairs units) = some s ∧
    t = '"' :: (body ++ ['"'])

/-- A code unit that starts no pair is a code point. -/
theorem combinePairs_cons {n : Nat} (h : n < 0xd800 ∨ 0xdc00 ≤ n) (rest : List Nat) :
    combinePairs (n :: rest) = n :: combinePairs rest := by
  cases rest with
  | nil => rfl
  | cons low more => rw [combinePairs, if_neg (by omega)]

/-- The one code unit of a character of the basic plane. -/
theorem units16_of_lt {c : Char} (h : c.toNat < 0x10000) : units16 c = [c.toNat] :=
  if_pos h

/-- The surrogate pair of any other character. -/
theorem units16_of_ge {c : Char} (h : 0x10000 ≤ c.toNat) :
    units16 c = [0xd800 + (c.toNat - 0x10000) / 0x400, 0xdc00 + (c.toNat - 0x10000) % 0x400] :=
  if_neg (Nat.not_lt.mpr h)

/-- The code units of a text make up its code points. -/
theorem combinePairs_flatMap_units16 (t : Text) :
    combinePairs (t.flatMap units16) = t.map Char.toNat := by
  induction t with
  | nil => rfl
  | cons c more ih =>
      have hvalid := Text.Utf8.toNat_isValid c
      rw [List.flatMap_cons, List.map_cons, ← ih]
      rcases Nat.lt_or_ge c.toNat 0x10000 with hplane | hbeyond
      · -- No character is a surrogate, so its unit is not taken for half of a pair.
        rw [units16_of_lt hplane]
        exact combinePairs_cons (by omega) _
      · have hcode : 0x10000 + 0x400 * (0xd800 + (c.toNat - 0x10000) / 0x400 - 0xd800)
            + (0xdc00 + (c.toNat - 0x10000) % 0x400 - 0xdc00) = c.toNat := by
          omega
        rw [units16_of_ge hbeyond, List.cons_append, List.cons_append, List.nil_append,
          combinePairs, if_pos (by omega), hcode]

/-- A code unit is written with four digits. -/
theorem lt_of_mem_units16 {c : Char} {unit : Nat} (h : unit ∈ units16 c) : unit < 16 ^ 4 := by
  have hvalid := Text.Utf8.toNat_isValid c
  rcases Nat.lt_or_ge c.toNat 0x10000 with hplane | hbeyond
  · rw [units16_of_lt hplane, List.mem_singleton] at h
    omega
  · simp only [units16_of_ge hbeyond, List.mem_cons, List.not_mem_nil, or_false] at h
    omega

/-- How a character is written in a string: as itself, with a letter that stands for it,
or with the escapes of its code units. -/
theorem escape_cases (c : Char) :
    (c ≠ '"' ∧ c ≠ '\\' ∧ isPrintableAscii c = true ∧ escape c = [c]) ∨
    (∃ letter, stringEscape? letter = some (.character c) ∧ c.toNat < 0x10000 ∧
      escape c = ['\\', letter]) ∨
    escape c = (units16 c).flatMap fun unit => '\\' :: 'u' :: Text.hexDigits 4 unit := by
  -- The cases are those of the writer, in its order.
  unfold escape
  by_cases hself : c = '"' ∨ c = '\\'
  · refine .inr (.inl ⟨c, ?_, ?_, if_pos hself⟩) <;> rcases hself with rfl | rfl <;> decide
  rw [if_neg hself]
  by_cases hfeed : c = '\n'
  · exact .inr (.inl ⟨'n', by rw [hfeed]; rfl, by rw [hfeed]; decide, if_pos hfeed⟩)
  rw [if_neg hfeed]
  by_cases hreturn : c = '\r'
  · exact .inr (.inl ⟨'r', by rw [hreturn]; rfl, by rw [hreturn]; decide, if_pos hreturn⟩)
  rw [if_neg hreturn]
  by_cases htab : c = '\t'
  · exact .inr (.inl ⟨'t', by rw [htab]; rfl, by rw [htab]; decide, if_pos htab⟩)
  rw [if_neg htab]
  by_cases hform : c.toNat = 0x0c
  · exact .inr (.inl ⟨'f', by rw [← Char.ofNat_toNat c, hform]; rfl, by omega, if_pos hform⟩)
  rw [if_neg hform]
  by_cases hback : c.toNat = 0x08
  · exact .inr (.inl ⟨'b', by rw [← Char.ofNat_toNat c, hback]; rfl, by omega, if_pos hback⟩)
  rw [if_neg hback]
  by_cases hprint : 0x20 ≤ c.toNat ∧ c.toNat ≤ 0x7e
  · obtain ⟨hquote, hbackslash⟩ := not_or.mp hself
    exact .inl ⟨hquote, hbackslash, Text.isPrintableAscii_iff.mpr hprint, if_pos hprint⟩
  · exact .inr (.inr (if_neg hprint))

/-- Code units may be escaped. -/
theorem body_units {units codes : List Nat} {t : Text} (h : ∀ unit ∈ units, unit < 16 ^ 4)
    (more : Body stringEscape? '"' codes t) :
    Body stringEscape? '"' (units ++ codes)
      ((units.flatMap fun unit => '\\' :: 'u' :: Text.hexDigits 4 unit) ++ t) := by
  induction units with
  | nil => exact more
  | cons unit others ih =>
      obtain ⟨hunit, hothers⟩ := List.forall_mem_cons.mp h
      rw [List.flatMap_cons, List.append_assoc]
      exact .digits rfl (Text.length_hexDigits _ _) (Text.hexNat?_hexDigits hunit) (ih hothers)

/-- A character that is written in a string may stand there, for its code units. -/
theorem body_escape (c : Char) {codes : List Nat} {t : Text}
    (more : Body stringEscape? '"' codes t) :
    Body stringEscape? '"' (units16 c ++ codes) (escape c ++ t) := by
  rcases escape_cases c with
    ⟨hquote, hbackslash, hprint, h⟩ | ⟨letter, hletter, hplane, h⟩ | h
  · have hcode := Text.isPrintableAscii_iff.mp hprint
    rw [h, units16_of_lt (by omega)]
    exact .plain hquote hbackslash hcode.1 more
  · rw [h, units16_of_lt hplane]
    exact .character hletter more
  · rw [h]
    exact body_units (fun _ hunit => lt_of_mem_units16 hunit) more

/-- So may all the characters of a text. -/
theorem body_flatMap_escape (t : Text) :
    Body stringEscape? '"' (t.flatMap units16) (t.flatMap escape) := by
  induction t with
  | nil => exact .nil
  | cons c more ih => exact body_escape c ih

/-- What is printed for a text is a string. -/
theorem isString_quotedString (t : Text) : IsString t (quotedString t) := by
  refine ⟨_, _, body_flatMap_escape t, ?_, rfl⟩
  rw [combinePairs_flatMap_units16, Text.ofCodes?_map_toNat]

/-! ### Values -/

/-- White space between the items of a text. -/
def isGap (c : Char) : Bool :=
  c == ' ' || c == '\n' || c == '\r' || c == '\t'

/-- The texts that are white space, or nothing. -/
def Gaps (t : Text) : Prop :=
  ∀ c ∈ t, isGap c = true

/-- The values that are written as words. -/
def words : List (Text × Json) :=
  [("null".toList, null), ("true".toList, bool true), ("false".toList, bool false)]

mutual

/-- The texts that are a value. -/
inductive Written : Json → Text → Prop where
  | word {v : Json} {t : Text} (listed : (t, v) ∈ words) : Written v t
  | number {n : Int} {t : Text} (integer : IsInteger n t) : Written (.number n) t
  | string {s t : Text} (quoted : IsString s t) : Written (.string s) t
  | emptyArray {g : Text} (inside : Gaps g) : Written (.array []) ('[' :: (g ++ [']']))
  | array {item : Json} {items : List Json} {g t g' more : Text} (before : Gaps g)
      (first : Written item t) (behind : Gaps g') (others : Items items more) :
      Written (.array (item :: items)) ('[' :: (g ++ (t ++ (g' ++ (more ++ [']'])))))
  | emptyObject {g : Text} (inside : Gaps g) : Written (.object []) ('{' :: (g ++ ['}']))
  | object {field : Text × Json} {fields : List (Text × Json)} {g t g' more : Text}
      (before : Gaps g) (first : Field field t) (behind : Gaps g')
      (others : Fields fields more) :
      Written (.object (field :: fields)) ('{' :: (g ++ (t ++ (g' ++ (more ++ ['}'])))))

/-- The texts that are the items of an array behind the first. -/
inductive Items : List Json → Text → Prop where
  | nil : Items [] []
  | cons {item : Json} {items : List Json} {g t g' more : Text} (before : Gaps g)
      (first : Written item t) (behind : Gaps g') (others : Items items more) :
      Items (item :: items) (',' :: (g ++ (t ++ (g' ++ more))))

/-- The texts that are a field: its name, a colon and its value. -/
inductive Field : Text × Json → Text → Prop where
  | mk {key : Text} {v : Json} {name g g' t : Text} (quoted : IsString key name)
      (before : Gaps g) (behind : Gaps g') (value : Written v t) :
      Field (key, v) (name ++ (g ++ ':' :: (g' ++ t)))

/-- The texts that are the fields of an object behind the first. -/
inductive Fields : List (Text × Json) → Text → Prop where
  | nil : Fields [] []
  | cons {field : Text × Json} {fields : List (Text × Json)} {g t g' more : Text}
      (before : Gaps g) (first : Field field t) (behind : Gaps g')
      (others : Fields fields more) :
      Fields (field :: fields) (',' :: (g ++ (t ++ (g' ++ more))))

end

/-- The texts that are JSON for a value: it and white space around it. -/
def Document (v : Json) (t : Text) : Prop :=
  ∃ g u g', Gaps g ∧ Written v u ∧ Gaps g' ∧ t = g ++ (u ++ g')

/-- A line break and its indentation are white space. -/
theorem gaps_newline (depth : Nat) : Gaps (newline depth) := by
  intro c hc
  rcases List.mem_cons.mp hc with rfl | hc
  · rfl
  · exact List.eq_of_mem_replicate hc ▸ rfl

/-- Nothing is no more than white space. -/
theorem gaps_nil : Gaps [] :=
  fun _ hc => absurd hc List.not_mem_nil

/-- What is printed for a field is a field. -/
theorem field_pretty (key : Text) {v : Json} {t : Text} (value : Written v t) :
    Field (key, v) (quotedString key ++ ([':', ' '] ++ t)) := by
  have hblank : Gaps [' '] := List.forall_mem_singleton.mpr rfl
  exact .mk (isString_quotedString key) gaps_nil hblank value

mutual

/-- What is printed for a value is the value, at any depth. -/
theorem written_pretty (v : Json) (depth : Nat) : Written v (v.pretty depth) := by
  match v with
  | null => exact .word (by simp [words, pretty])
  | bool true => exact .word (by simp [words, pretty])
  | bool false => exact .word (by simp [words, pretty])
  | number n => exact .number (Text.isInteger_ofInt n)
  | string t => exact .string (isString_quotedString t)
  | array [] => exact .emptyArray gaps_nil
  | array (item :: items) =>
    obtain ⟨g, more, hg, hmore, h⟩ := items_prettyItems items (depth + 1) depth
    have hitem := written_pretty item (depth + 1)
    -- The grammar takes what is behind an item in other parts than the printer writes it.
    have harray := Written.array (gaps_newline (depth + 1)) hitem hg hmore
    simpa only [pretty, List.cons_append, List.append_assoc, h] using harray
  | object [] => exact .emptyObject gaps_nil
  | object ((key, value) :: fields) =>
    obtain ⟨g, more, hg, hmore, h⟩ := fields_prettyFields fields (depth + 1) depth
    have hfield := field_pretty key (written_pretty value (depth + 1))
    have hobject := Written.object (gaps_newline (depth + 1)) hfield hg hmore
    simpa only [pretty, List.cons_append, List.append_assoc, h] using hobject

/-- What is printed for the items behind the first. The line break behind the last of them
is white space of the grammar, as it is behind any. -/
theorem items_prettyItems (items : List Json) (depth below : Nat) :
    ∃ g more, Gaps g ∧ Items items more ∧
      ∀ rest, prettyItems depth items ++ (newline below ++ rest) = g ++ (more ++ rest) := by
  match items with
  | [] => exact ⟨newline below, [], gaps_newline below, .nil, fun _ => rfl⟩
  | item :: items =>
    -- No white space is in front of a comma, and a line break is behind it.
    obtain ⟨g, more, hg, hmore, h⟩ := items_prettyItems items depth below
    have hitem := written_pretty item depth
    refine ⟨[], _, gaps_nil, .cons (gaps_newline depth) hitem hg hmore, ?_⟩
    intro rest
    simp only [prettyItems, List.cons_append, List.append_assoc, List.nil_append, h]

/-- The same for fields. -/
theorem fields_prettyFields (fields : List (Text × Json)) (depth below : Nat) :
    ∃ g more, Gaps g ∧ Fields fields more ∧
      ∀ rest, prettyFields depth fields ++ (newline below ++ rest) = g ++ (more ++ rest) := by
  match fields with
  | [] => exact ⟨newline below, [], gaps_newline below, .nil, fun _ => rfl⟩
  | (key, value) :: fields =>
    obtain ⟨g, more, hg, hmore, h⟩ := fields_prettyFields fields depth below
    have hvalue := written_pretty value depth
    refine ⟨[], _, gaps_nil, .cons (gaps_newline depth) (field_pretty key hvalue) hg hmore, ?_⟩
    intro rest
    simp only [prettyFields, List.cons_append, List.append_assoc, List.nil_append, h]

end

/-- What is printed, with a line feed behind it, is JSON for the value. -/
theorem document_pretty (v : Json) : Document v (v.pretty 0 ++ ['\n']) := by
  have hfeed : Gaps ['\n'] := List.forall_mem_singleton.mpr rfl
  exact ⟨[], _, _, gaps_nil, written_pretty v 0, hfeed, rfl⟩

/-! ### Characters -/

/-- Whether `c` is printable ASCII or a line feed. -/
def isPlain (c : Char) : Bool :=
  c == '\n' || isPrintableAscii c

/-- The letters behind a backslash are printable ASCII. -/
theorem isPrintableAscii_of_stringEscape? {letter : Char} {e : Escape}
    (h : stringEscape? letter = some e) : isPrintableAscii letter = true := by
  unfold stringEscape? at h
  split at h
  case h_10 => exact absurd h (by simp)
  all_goals rfl

/-- A character is written in printable ASCII. -/
theorem isPrintableAscii_of_mem_escape {c d : Char} (hd : d ∈ escape c) :
    isPrintableAscii d = true := by
  rcases escape_cases c with ⟨-, -, hprint, h⟩ | ⟨letter, hletter, -, h⟩ | h
  · rw [h, List.mem_singleton] at hd
    exact hd ▸ hprint
  · simp only [h, List.mem_cons, List.not_mem_nil, or_false] at hd
    rcases hd with rfl | rfl
    · rfl
    · exact isPrintableAscii_of_stringEscape? hletter
  · rw [h, List.mem_flatMap] at hd
    obtain ⟨unit, -, hd⟩ := hd
    simp only [List.mem_cons] at hd
    rcases hd with rfl | rfl | hd
    · rfl
    · rfl
    · exact Text.isPrintableAscii_of_mem_hexDigits hd

/-- A string is written in printable ASCII. -/
theorem isPlain_of_mem_quotedString {t : Text} {c : Char} (hc : c ∈ quotedString t) :
    isPlain c = true := by
  simp only [quotedString, List.cons_append, List.mem_cons, List.mem_append, List.mem_flatMap,
    List.not_mem_nil, or_false] at hc
  rcases hc with rfl | ⟨d, -, hc⟩ | rfl
  · rfl
  · rw [isPlain, isPrintableAscii_of_mem_escape hc, Bool.or_true]
  · rfl

/-- A line break and its indentation are plain. -/
theorem isPlain_of_mem_newline (depth : Nat) : ∀ c ∈ newline depth, isPlain c = true := by
  intro c hc
  rcases List.mem_cons.mp hc with rfl | hc
  · rfl
  · exact List.eq_of_mem_replicate hc ▸ rfl

mutual

/-- A value is written in printable ASCII, line breaks apart. -/
theorem isPlain_of_mem_pretty (v : Json) (depth : Nat) :
    ∀ c ∈ v.pretty depth, isPlain c = true := by
  match v with
  | null => exact List.all_eq_true.mp rfl
  | bool true => exact List.all_eq_true.mp rfl
  | bool false => exact List.all_eq_true.mp rfl
  | number n =>
    intro c hc
    rw [isPlain, Text.isPrintableAscii_of_mem_ofInt hc, Bool.or_true]
  | string t => exact fun _ hc => isPlain_of_mem_quotedString hc
  | array [] => exact List.all_eq_true.mp rfl
  | array (item :: items) =>
    simp only [pretty, List.cons_append, List.append_assoc, List.forall_mem_cons,
      List.forall_mem_append, List.not_mem_nil, IsEmpty.forall_iff, implies_true, and_true]
    exact ⟨rfl, isPlain_of_mem_newline _, isPlain_of_mem_pretty item _,
      isPlain_of_mem_prettyItems items _, isPlain_of_mem_newline _, rfl⟩
  | object [] => exact List.all_eq_true.mp rfl
  | object ((key, value) :: fields) =>
    simp only [pretty, List.cons_append, List.append_assoc, List.forall_mem_cons,
      List.forall_mem_append, List.not_mem_nil, IsEmpty.forall_iff, implies_true, and_true,
      true_and]
    exact ⟨rfl, isPlain_of_mem_newline _, fun _ hc => isPlain_of_mem_quotedString hc, rfl, rfl,
      isPlain_of_mem_pretty value _, isPlain_of_mem_prettyFields fields _,
      isPlain_of_mem_newline _, rfl⟩

/-- So are the items behind the first. -/
theorem isPlain_of_mem_prettyItems (items : List Json) (depth : Nat) :
    ∀ c ∈ prettyItems depth items, isPlain c = true := by
  match items with
  | [] => exact List.all_eq_true.mp rfl
  | item :: items =>
    simp only [prettyItems, List.cons_append, List.append_assoc, List.forall_mem_cons,
      List.forall_mem_append]
    exact ⟨rfl, isPlain_of_mem_newline _, isPlain_of_mem_pretty item _,
      isPlain_of_mem_prettyItems items _⟩

/-- So are the fields behind the first. -/
theorem isPlain_of_mem_prettyFields (fields : List (Text × Json)) (depth : Nat) :
    ∀ c ∈ prettyFields depth fields, isPlain c = true := by
  match fields with
  | [] => exact List.all_eq_true.mp rfl
  | (key, value) :: fields =>
    simp only [prettyFields, List.cons_append, List.append_assoc, List.forall_mem_cons,
      List.forall_mem_append, List.not_mem_nil, IsEmpty.forall_iff, implies_true, true_and]
    exact ⟨rfl, isPlain_of_mem_newline _, fun _ hc => isPlain_of_mem_quotedString hc, rfl, rfl,
      isPlain_of_mem_pretty value _, isPlain_of_mem_prettyFields fields _⟩

end

end MonkeyScan.Json
