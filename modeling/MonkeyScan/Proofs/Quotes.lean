import MonkeyScan.Proofs.Lists
import MonkeyScan.Proofs.Modes

/-!
# `MonkeyScan.Proofs.Quotes`: quotes go in pairs

No token but a string has a quote in it, and whitespace has none. So the quotes
of a source, counted from the start, open and close strings in turn, whatever
stands between them. An odd one at the end opens a string that is never closed.

`Quoting` lays the quotes of a text beside its items: two for a string, one for
an open string, which is the last item, and none for any other.

* `Front.quotes_cases`: which quotes are in what stands at the front of a text.
* `Layout.quoting`: so the quotes of a text lie beside its items.
* `Layout.even_quotes_before`: an even number of quotes is before each item.
* `tokenizeAll_quotes`: the strings of a source are its pairs of quotes, and a
  string is open if and only if the number of quotes is odd.
-/

set_option autoImplicit false

namespace MonkeyScan

open Scan

/-- The characters of a text between two offsets in it, those at the offsets left
out. -/
def Text.between (t : Text) (i j : Nat) : Text :=
  (t.take j).drop (i + 1)

/-- What the quotes of a source make of its tokens and errors. -/
structure QuotesPaired (source : Text) (quotes : List Nat) (tokens : List Token)
    (errors : List ScanError) : Prop where
  /-- There is one string for every two quotes. -/
  count : (tokens.filter fun t => t.kind = .string).length = quotes.length / 2
  /-- Each string goes from a quote to the next and holds what is between them. -/
  strings : ∀ k i j, quotes[2 * k]? = some i → quotes[2 * k + 1]? = some j →
    (tokens.filter fun t => t.kind = .string)[k]?
      = some ⟨.string, some (.text (source.between i j)), i⟩
  /-- A string is open where a quote is left without another. -/
  odd : (∃ e ∈ errors, e.kind = .unterminatedString) ↔ quotes.length % 2 = 1
  /-- This is the last error. It takes the source from the last quote on, and only
  the end of the input is behind that. -/
  last : ∀ i, quotes.length % 2 = 1 → quotes.getLast? = some i →
    (∃ earlier e, errors = earlier ++ [e] ∧
      (∀ e' ∈ earlier, e'.kind ≠ .unterminatedString) ∧ e.kind = .unterminatedString ∧
      e.position = (LineIndex.ofText source).position i ∧ e.text = source.drop i) ∧
    tokens.filter (fun t => (i : Int) < t.offset) = [⟨.endOfInput, none, source.length⟩]

/-! ### Quotes at the front of a text -/

/-- No quote is among characters that are all in a class without it. -/
theorem quote_not_mem {p : Char → Bool} (hp : p '"' = false) {t : Text}
    (h : ∀ d ∈ t, p d = true) : '"' ∉ t := by
  intro hmem
  rw [h _ hmem] at hp
  exact Bool.noConfusion hp

/-- What stands at the front of a text is a string with a quote at each end, an
open string, which is the whole text, or something without a quote. -/
theorem Front.quotes_cases {t m : Text} {o : Outcome} (h : Front t m o) :
    (∃ content, '"' ∉ content ∧ m = '"' :: (content ++ ['"']) ∧
      o = .token .string (some (.text content))) ∨
    (∃ more, '"' ∉ more ∧ m = '"' :: more ∧ m = t ∧ o = .fault .unterminatedString) ∨
    ('"' ∉ m ∧ o ≠ .fault .unterminatedString ∧ ∀ value, o ≠ .token .string value) := by
  have hword : ∀ {c : Char} {more : Text}, isWordStart c = true →
      (∀ d ∈ more, isWordChar d = true) → '"' ∉ c :: more := by
    intro c more first others
    exact quote_not_mem (by decide +kernel)
      (List.forall_mem_cons.mpr ⟨isWordChar_of_isWordStart first, others⟩)
  have hdigits : ∀ {c : Char} {more : Text}, isDigit c = true →
      (∀ d ∈ more, isDigit d = true) → '"' ∉ c :: more := by
    intro c more first others
    exact quote_not_mem (by decide) (List.forall_mem_cons.mpr ⟨first, others⟩)
  cases h with
  | lexeme _ denotes =>
      cases denotes with
      | symbol s =>
          exact Or.inr (Or.inr ⟨fun hmem => (Symbol.char_apart hmem).2.2.2 rfl, by simp, by simp⟩)
      | keyword k =>
          obtain ⟨c, more, hk, first, others⟩ := k.spelling_isWord
          exact Or.inr (Or.inr ⟨hk ▸ hword first others, by simp, by simp⟩)
      | identifier first others =>
          exact Or.inr (Or.inr ⟨hword first others, by simp, by simp⟩)
      | integer first others =>
          exact Or.inr (Or.inr ⟨hdigits first others, by simp, by simp⟩)
      | malformed first others =>
          exact Or.inr (Or.inr ⟨hdigits first others, by simp, by simp⟩)
      | string closed => exact Or.inl ⟨_, closed, rfl, rfl⟩
  | unterminated opened => exact Or.inr (Or.inl ⟨_, opened, rfl, rfl, rfl⟩)
  | @illegal c rest _ stray =>
      -- A quote starts some lexeme, so it is no stray character.
      have hc : '"' ∉ [c] := by
        rw [List.mem_singleton]
        rintro rfl
        exact stray ['"'] (.quoted List.not_mem_nil)
      exact Or.inr (Or.inr ⟨hc, by simp, by simp⟩)

/-! ### Quotes beside items -/

/-- Quotes, by offset, beside the items that they are in. -/
inductive Quoting : List Item → List Nat → Prop where
  | nil : Quoting [] []
  | string {i : Item} {content : Text} {more : List Item} {quotes : List Nat}
      (is : i.outcome = .token .string (some (.text content)))
      (tail : Quoting more quotes) :
      Quoting (i :: more) (i.start :: (i.stop - 1) :: quotes)
  | unterminated {i : Item} (is : i.outcome = .fault .unterminatedString) :
      Quoting [i] [i.start]
  | other {i : Item} {more : List Item} {quotes : List Nat}
      (closed : i.outcome ≠ .fault .unterminatedString)
      (noString : ∀ value, i.outcome ≠ .token .string value)
      (tail : Quoting more quotes) : Quoting (i :: more) quotes

/-- The quotes of a text lie beside its items. -/
theorem Layout.quoting {offset : Nat} {t : Text} {found : List Item} (h : Layout offset t found) :
    Quoting found (t.idxsOf '"' offset) := by
  have hgap : ∀ {gap : Text}, (∀ c ∈ gap, Text.isBlank c = true) → '"' ∉ gap :=
    quote_not_mem (by decide)
  induction h with
  | blank gap =>
      rw [idxsOf_eq_nil_of_not_mem (hgap gap)]
      exact .nil
  | @item offset gap lexeme rest outcome more blank front tail ih =>
      rw [List.idxsOf_append, idxsOf_eq_nil_of_not_mem (hgap blank), List.idxsOf_append,
        List.nil_append]
      rcases front.quotes_cases with
        ⟨content, closed, rfl, rfl⟩ | ⟨inner, opened, hm, hall, rfl⟩ | ⟨hnone, hopen, hstring⟩
      · have hquotes : ('"' :: (content ++ ['"'])).idxsOf '"' (offset + gap.length)
            = [offset + gap.length, offset + gap.length + 1 + content.length] := by
          rw [List.idxsOf_cons, if_pos (by decide), List.idxsOf_append,
            idxsOf_eq_nil_of_not_mem closed]
          rfl
        have hstop : Item.stop ⟨offset + gap.length, '"' :: (content ++ ['"']),
            .token .string (some (.text content))⟩ - 1
              = offset + gap.length + 1 + content.length := by
          simp only [Item.stop, List.length_cons, List.length_append, List.length_nil]
          omega
        rw [hquotes, ← hstop]
        exact .string rfl ih
      · -- Nothing is left behind an open string.
        have hrest : rest = [] := List.append_right_eq_self.mp hall.symm
        rw [hrest] at tail ⊢
        rw [hm, List.idxsOf_cons, if_pos (by decide), idxsOf_eq_nil_of_not_mem opened,
          ← tail.itemsFrom_eq, itemsFrom_nil]
        exact .unterminated rfl
      · rw [idxsOf_eq_nil_of_not_mem hnone, List.nil_append]
        exact .other hopen hstring ih

/-- An even number of quotes is before each item. -/
theorem Layout.even_quotes_before {offset : Nat} {t : Text} {found : List Item}
    (h : Layout offset t found) :
    ∀ i ∈ found, (t.take (i.start - offset)).count '"' % 2 = 0 := by
  induction h with
  | blank => exact fun i hi => absurd hi List.not_mem_nil
  | @item offset gap lexeme rest outcome more blank front tail ih =>
      have hgap : gap.count '"' = 0 :=
        List.count_eq_zero.mpr (quote_not_mem (by decide) blank)
      intro i hi
      rcases List.mem_cons.mp hi with rfl | hmore
      · show ((gap ++ (lexeme ++ rest)).take (offset + gap.length - offset)).count '"' % 2 = 0
        rw [Nat.add_sub_cancel_left, List.take_left, hgap]
      · have hle := tail.le_start i hmore
        have hbefore := ih i hmore
        -- Up to `i` there are the gap, the first item, and what is up to `i` of the tail.
        have hsplit : i.start - offset
            = (gap ++ lexeme).length + (i.start - (offset + gap.length + lexeme.length)) := by
          rw [List.length_append]
          omega
        rw [hsplit, ← List.append_assoc, List.take_length_add_append, List.count_append,
          List.count_append, hgap]
        rcases front.quotes_cases with
          ⟨content, closed, rfl, -⟩ | ⟨inner, opened, hm, hall, rfl⟩ | ⟨hnone, -⟩
        · have hclosed := List.count_eq_zero.mpr closed
          simp only [List.count_cons_self, List.count_append, hclosed, List.count_nil]
          omega
        · have hrest : rest = [] := List.append_right_eq_self.mp hall.symm
          rw [hrest] at tail
          rw [← tail.itemsFrom_eq, itemsFrom_nil] at hmore
          exact absurd hmore List.not_mem_nil
        · rw [List.count_eq_zero.mpr hnone]
          omega

/-! ### Tokens and errors beside quotes -/

namespace Quoting

variable {found : List Item} {quotes : List Nat}

/-- The tokens of some items that are strings. -/
def strings (found : List Item) : List Token :=
  (found.filterMap Item.token?).filter fun t => t.kind = .string

/-- An item that is a string is the first of them. -/
theorem strings_cons_of_string {i : Item} {value : Option Value} {more : List Item}
    (hi : i.outcome = .token .string value) :
    strings (i :: more) = ⟨.string, value, i.start⟩ :: strings more := by
  simp [strings, Item.token?_of_token hi]

/-- Any other item is none of them. -/
theorem strings_cons_of_other {i : Item} {more : List Item}
    (hi : ∀ value, i.outcome ≠ .token .string value) : strings (i :: more) = strings more := by
  cases houtcome : i.outcome with
  | fault kind => simp [strings, Item.token?_of_fault houtcome]
  | token kind value =>
      have hkind : kind ≠ .string := by
        rintro rfl
        exact hi value houtcome
      simp [strings, Item.token?_of_token houtcome, hkind]

/-- There is one string for every two quotes. -/
theorem length_strings (h : Quoting found quotes) :
    (strings found).length = quotes.length / 2 := by
  induction h with
  | nil => rfl
  | string is _ ih =>
      rw [strings_cons_of_string is]
      simp only [List.length_cons, ih]
      omega
  | unterminated is =>
      rw [strings_cons_of_other (by simp [is])]
      simp [strings]
  | other _ noString _ ih => rw [strings_cons_of_other noString, ih]

/-- The strings stand at every other quote, from the first on, and stop behind the
quotes between. -/
theorem getElem?_strings (h : Quoting found quotes) {k i j : Nat}
    (hi : quotes[2 * k]? = some i) (hj : quotes[2 * k + 1]? = some j) :
    ∃ item ∈ found, ∃ content, item.outcome = .token .string (some (.text content)) ∧
      item.start = i ∧ item.stop - 1 = j ∧
      (strings found)[k]? = some ⟨.string, some (.text content), i⟩ := by
  induction h generalizing k with
  | nil => exact nomatch hi
  | @string first content more quotes is _ ih =>
      rw [strings_cons_of_string is]
      cases k with
      | zero =>
          refine ⟨first, List.mem_cons_self, content, is, Option.some.inj hi,
            Option.some.inj hj, ?_⟩
          rw [← Option.some.inj hi]
          rfl
      | succ k =>
          obtain ⟨item, hitem, rest⟩ := ih hi hj
          exact ⟨item, List.mem_cons_of_mem _ hitem, rest⟩
  | unterminated is => exact nomatch hj
  | other _ noString _ ih =>
      obtain ⟨item, hitem, rest⟩ := ih hi hj
      rw [strings_cons_of_other noString]
      exact ⟨item, List.mem_cons_of_mem _ hitem, rest⟩

/-- The quotes of some items go in pairs and no item is an open string, or the last
item is one, at the last quote. -/
inductive Ending (found : List Item) (quotes : List Nat) : Prop where
  | closed (even : quotes.length % 2 = 0)
      (noneOpen : ∀ i ∈ found, i.outcome ≠ .fault .unterminatedString)
  | opened {before : List Item} {i : Item} (odd : quotes.length % 2 = 1)
      (found_eq : found = before ++ [i])
      (others : ∀ j ∈ before, j.outcome ≠ .fault .unterminatedString)
      (is : i.outcome = .fault .unterminatedString) (last : quotes.getLast? = some i.start)

/-- An item in front that is no open string, with two quotes or none, does not change
how the items end. -/
theorem Ending.cons {first : Item} (inFront : List Nat) (heven : inFront.length % 2 = 0)
    (hfirst : first.outcome ≠ .fault .unterminatedString) (h : Ending found quotes) :
    Ending (first :: found) (inFront ++ quotes) := by
  cases h with
  | closed even noneOpen =>
      refine .closed ?_ (List.forall_mem_cons.mpr ⟨hfirst, noneOpen⟩)
      rw [List.length_append]
      omega
  | opened odd found_eq others is last =>
      refine .opened ?_ (congrArg (first :: ·) found_eq)
        (List.forall_mem_cons.mpr ⟨hfirst, others⟩) is ?_
      · rw [List.length_append]
        omega
      · rw [List.getLast?_append, last, Option.some_or]

/-- So the items end in one of the two ways. -/
theorem ending (h : Quoting found quotes) : Ending found quotes := by
  induction h with
  | nil => exact .closed rfl (by simp)
  | @string first _ _ _ is _ ih =>
      exact ih.cons [first.start, first.stop - 1] (by simp) (by simp [is])
  | @unterminated i is => exact .opened rfl (List.nil_append [i]).symm (by simp) is rfl
  | other closed _ _ ih => exact ih.cons [] rfl closed

end Quoting

/-! ### A whole source -/

section
variable {source filename : Text}

/-- The content of a string is what is between its quotes in the source. -/
theorem Item.between_eq {i : Item} (hi : i ∈ items source) {content : Text}
    (houtcome : i.outcome = .token .string (some (.text content))) :
    source.between i.start (i.stop - 1) = content := by
  obtain ⟨rest, hdrop, hfront⟩ := items_front_at hi
  rcases hfront.quotes_cases with ⟨content', -, hlexeme, ho⟩ | ⟨-, -, -, -, ho⟩ | ⟨-, -, ho⟩
  · rw [houtcome] at ho
    obtain rfl : content = content' := by simpa using ho
    have hlength : i.stop - 1 - (i.start + 1) = content.length := by
      rw [Item.stop, hlexeme]
      simp only [List.length_cons, List.length_append, List.length_nil]
      omega
    rw [Text.between, List.drop_take, hlength, ← List.drop_drop, hdrop, hlexeme]
    simp
  · rw [houtcome] at ho
    exact Outcome.noConfusion ho
  · exact absurd houtcome (ho _)

/-- An open string takes what is left of the source. -/
theorem Item.lexeme_of_unterminated {i : Item} (hi : i ∈ items source)
    (houtcome : i.outcome = .fault .unterminatedString) : i.lexeme = source.drop i.start := by
  obtain ⟨rest, hdrop, hfront⟩ := items_front_at hi
  rcases hfront.quotes_cases with ⟨content, -, -, ho⟩ | ⟨-, -, -, hall, -⟩ | ⟨-, ho, -⟩
  · rw [houtcome] at ho
    exact Outcome.noConfusion ho
  · exact hall.trans hdrop.symm
  · exact absurd houtcome ho

/-- The errors of a source whose items have no open string are of the other kind. -/
theorem kind_ne_unterminated {found : List Item} {index : LineIndex}
    (h : ∀ i ∈ found, i.outcome ≠ .fault .unterminatedString) :
    ∀ e ∈ found.filterMap (Item.error? source filename index), e.kind ≠ .unterminatedString := by
  intro e he hkind
  obtain ⟨i, hi, houtcome, -⟩ := mem_filterMap_error?.mp he
  rw [hkind] at houtcome
  exact h i hi houtcome

/-- The quotes of a source pair up to the strings that are read, and one that is left
over opens a string to the end of the source. -/
theorem tokenizeAll_quotes (source filename : Text) :
    QuotesPaired source (source.idxsOf '"') (tokenizeAll source filename).1
      (tokenizeAll source filename).2 := by
  have hlayout := layout_itemsFrom 0 source
  have hquoting : Quoting (items source) (source.idxsOf '"') := hlayout.quoting
  have hstrings : ((tokenizeAll source filename).1.filter fun t => t.kind = .string)
      = Quoting.strings (items source) := by
    show (((items source).filterMap Item.token? ++ [endToken source]).filter _) = _
    rw [List.filter_append, List.filter_cons_of_neg (by simp [endToken]), List.filter_nil,
      List.append_nil, Quoting.strings]
  constructor
  case count => rw [hstrings, hquoting.length_strings]
  case strings =>
    intro k i j hi hj
    obtain ⟨item, hitem, content, houtcome, rfl, rfl, hk⟩ := hquoting.getElem?_strings hi hj
    rw [hstrings, hk, Item.between_eq hitem houtcome]
  case odd =>
    cases hquoting.ending with
    | closed even noneOpen =>
        have hkinds : ∀ e ∈ (tokenizeAll source filename).2, e.kind ≠ .unterminatedString :=
          kind_ne_unterminated noneOpen
        constructor
        · rintro ⟨e, he, hkind⟩
          exact absurd hkind (hkinds e he)
        · omega
    | @opened before i odd hfound _ hi _ =>
        have hmem : i ∈ items source := by simp [hfound]
        refine ⟨fun _ => odd, fun _ => ?_⟩
        exact ⟨_, List.mem_filterMap.mpr ⟨i, hmem, Item.error?_of_fault hi⟩, rfl⟩
  case last =>
    intro o hodd hlast
    cases hquoting.ending with
    | closed even _ => omega
    | @opened before i _ hfound hbefore hi hstart =>
        obtain rfl : i.start = o := Option.some.inj (hstart.symm.trans hlast)
        have hmem : i ∈ items source := by simp [hfound]
        obtain ⟨e, herror, hkind⟩ :
            ∃ e, i.error? source filename (LineIndex.ofText source) = some e ∧
              e.kind = .unterminatedString := ⟨_, Item.error?_of_fault hi, rfl⟩
        obtain ⟨hposition, htext, -, -⟩ := Item.error?_eq_some herror
        constructor
        · refine ⟨before.filterMap (Item.error? source filename (LineIndex.ofText source)), e, ?_,
            kind_ne_unterminated hbefore, hkind, hposition,
            htext.trans (Item.lexeme_of_unterminated hmem hi)⟩
          show (items source).filterMap _ = _
          rw [hfound, List.filterMap_append, List.filterMap_cons_some herror, List.filterMap_nil]
        · exact filter_lt_offset filename hfound (Item.token?_of_fault hi)

end

end MonkeyScan
