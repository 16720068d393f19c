import MonkeyScan.Proofs.Quotes
import MonkeyScan.Proofs.Segmentation
import MonkeyScan.Proofs.Walk

/-!
# `MonkeyScan.Proofs.Digits`: integers are read whole and judged by value

A `DigitRun` of a source is as many digits in a row as there are. It says nothing of
tokens. Where an even number of quotes is before a run, it is in no string, and the run
is read as one: as an integer if its value is not too large, else as an error that
quotes all of it. No other integers are read.

No digit is in a symbol or in a word, so there are only two ways for one to be in an
item: the item is the whole run, or a quote opens it before the digit.

* `Front.digits_cases`: this for what stands at the front of a text.
* `exists_item_of_digit`: a digit with an even number of quotes before it is in an item
  that is a run.
* `Item.digitRun`, `DigitRun.exists_item`: so the runs outside of strings are the items
  that are integers.
* `integers_read_whole`: the integers and the errors of a source are its runs, in order,
  and no more than ten digits are converted at a time.
-/

set_option autoImplicit false

namespace MonkeyScan

open Scan

/-! ### Runs of digits -/

/-- Digits that stand in a source, with no digit directly before or after. -/
structure DigitRun (source : Text) (start : Nat) (digits : Text) : Prop where
  nonempty : digits ≠ []
  allDigits : ∀ d ∈ digits, isDigit d = true
  stands : digits <+: source.drop start
  noneBefore : ∀ k d, k + 1 = start → source[k]? = some d → isDigit d = false
  noneAfter : ∀ d, source[start + digits.length]? = some d → isDigit d = false

/-- An even number of quotes is before an offset of a source. -/
def OutsideStrings (source : Text) (start : Nat) : Prop :=
  (source.take start).count '"' % 2 = 0

namespace Event

/-- Whether an event is an integer, or an error over one. -/
def isInteger : Event → Bool
  | .ok t => t.kind == .integer
  | .error e => e.kind == .malformedInteger

/-- What digits at an offset are to be read as. -/
def ofDigits (source filename : Text) (start : Nat) (digits : Text) : Event :=
  if decimalValue digits ≤ maxInteger then
    .ok ⟨.integer, some (.number (decimalValue digits)), start⟩
  else
    .error ⟨.malformedInteger, FaultKind.malformedInteger.message digits,
      (LineIndex.ofText source).position start, digits, source, filename⟩

end Event

/-- The runs of digits of a source that are outside of strings are what is read as
integers. -/
structure IntegersWhole (source filename : Text) (runs : List (Nat × Text)) : Prop where
  inOrder : runs.Pairwise fun r r' => r.1 < r'.1
  mem_runs : ∀ start digits,
    (start, digits) ∈ runs ↔ DigitRun source start digits ∧ OutsideStrings source start
  /-- The integers and the errors over integers, merged by offset, are the runs. -/
  merged : (events source filename).filter Event.isInteger
    = runs.map fun r => Event.ofDigits source filename r.1 r.2
  /-- No text but one to ten digits is ever converted. Wherever reading has led, it goes on
  the same where the conversion of any other text fails. -/
  converts : ∀ convert : Text → Option Nat, Cursor.ConvertsTen convert →
    ∀ c, Cursor.Reached source filename c → ∀ turns, source.length < turns →
      c.walkNext turns convert = some c.next

/-! ### Digits at the front of a text -/

/-- What digits stand for. -/
def Scan.Outcome.ofDigits (digits : Text) : Outcome :=
  if decimalValue digits ≤ maxInteger then .token .integer (some (.number (decimalValue digits)))
  else .fault .malformedInteger

/-- Whether an outcome is an integer, or a fault over one. -/
def Scan.Outcome.isInteger : Outcome → Bool
  | .token kind _ => kind == .integer
  | .fault kind => kind == .malformedInteger

/-- What is read of digits is an integer or a fault over one. -/
theorem Scan.Outcome.isInteger_ofDigits (digits : Text) : (ofDigits digits).isInteger = true := by
  rw [ofDigits]
  split <;> rfl

/-- A digit behind an opening quote, and not behind the closing one, has one quote before
it. -/
theorem count_take_of_digit {content after : Text} (hcontent : '"' ∉ content)
    (hafter : ∀ d ∈ after, isDigit d = false) {n : Nat} {d : Char}
    (hd : ('"' :: (content ++ after))[n]? = some d) (hdigit : isDigit d = true) :
    (('"' :: (content ++ after)).take n).count '"' = 1 := by
  cases n with
  | zero =>
      rw [← Option.some.inj hd] at hdigit
      exact absurd hdigit (by decide)
  | succ n =>
      rw [List.getElem?_cons_succ] at hd
      rcases Nat.lt_or_ge n content.length with hn | hn
      · have hnone : '"' ∉ content.take n := fun h => hcontent (List.mem_of_mem_take h)
        rw [List.take_succ_cons, List.take_append_of_le_length (Nat.le_of_lt hn),
          List.count_cons_self, List.count_eq_zero.mpr hnone]
      · rw [List.getElem?_append_right hn] at hd
        rw [hafter d (List.mem_of_getElem? hd)] at hdigit
        exact absurd hdigit Bool.false_ne_true

/-- What stands at the front of a text is a run of digits, up to where they end, or
it is no integer, and a digit in it has one quote before it. -/
theorem Front.digits_cases {m rest : Text} {o : Outcome} (h : Front (m ++ rest) m o) :
    (m ≠ [] ∧ (∀ d ∈ m, isDigit d = true) ∧ StopsAt isDigit rest ∧ o = .ofDigits m) ∨
    (o.isInteger = false ∧ ∀ n d, m[n]? = some d → isDigit d = true →
      (m.take n).count '"' = 1) := by
  -- Where there is no digit, nothing is to be shown of one.
  have hnone {o : Outcome} {m : Text} (ho : o.isInteger = false)
      (hm : ∀ d ∈ m, isDigit d = false) :
      o.isInteger = false ∧ ∀ n d, m[n]? = some d → isDigit d = true →
        (m.take n).count '"' = 1 := by
    refine ⟨ho, fun n d hd hdigit => ?_⟩
    rw [hm d (List.mem_of_getElem? hd)] at hdigit
    exact absurd hdigit Bool.false_ne_true
  have hword {c : Char} {more : Text} (first : isWordStart c = true)
      (others : ∀ d ∈ more, isWordChar d = true) : ∀ d ∈ c :: more, isDigit d = false := by
    refine List.forall_mem_cons.mpr ⟨isDigit_eq_false_of_isWordStart first, ?_⟩
    exact fun d hd => isDigit_eq_false_of_isWordChar (others d hd)
  generalize ht : m ++ rest = t at h
  cases h with
  | unterminated opened =>
      refine Or.inr ⟨rfl, fun n d hd hdigit => ?_⟩
      have hcount := @count_take_of_digit _ [] opened (by simp) n d
      simp only [List.append_nil] at hcount
      exact hcount hd hdigit
  | @illegal c _ _ stray =>
      refine Or.inr (hnone rfl ?_)
      intro d hd
      rw [List.mem_singleton.mp hd, ← Bool.not_eq_true]
      exact fun hdigit => stray [] (.digits hdigit (by simp))
  | lexeme longest denotes =>
      subst ht
      cases denotes with
      | symbol s => exact Or.inr (hnone rfl fun d hd => (Symbol.char_apart hd).2.2.1)
      | keyword k =>
          obtain ⟨c, more, hk, first, others⟩ := k.spelling_isWord
          exact Or.inr (hnone rfl (hk ▸ hword first others))
      | identifier first others => exact Or.inr (hnone rfl (hword first others))
      | integer first others fits =>
          refine Or.inl ⟨List.cons_ne_nil _ _, List.forall_mem_cons.mpr ⟨first, others⟩,
            longest.stopsAt_digits first others, ?_⟩
          rw [Outcome.ofDigits, if_pos fits]
      | malformed first others large =>
          refine Or.inl ⟨List.cons_ne_nil _ _, List.forall_mem_cons.mpr ⟨first, others⟩,
            longest.stopsAt_digits first others, ?_⟩
          rw [Outcome.ofDigits, if_neg (Nat.not_le.mpr large)]
      | string closed =>
          refine Or.inr ⟨rfl, fun n d hd hdigit => count_take_of_digit closed ?_ hd hdigit⟩
          exact List.forall_mem_singleton.mpr (by decide)

/-! ### Digits in the items of a source -/

section
variable {source filename : Text} {i : Item}

/-- The event of an item that is a run of digits. -/
theorem Item.event_of_digits (h : i.outcome = .ofDigits i.lexeme) :
    i.event source filename = Event.ofDigits source filename i.start i.lexeme := by
  rw [Outcome.ofDigits] at h
  rw [Item.event, h, Event.ofDigits]
  by_cases hfits : decimalValue i.lexeme ≤ maxInteger
  · rw [if_pos hfits, if_pos hfits]
  · rw [if_neg hfits, if_neg hfits]

/-- An event is an integer, or an error over one, as its item is. -/
theorem Item.isInteger_event (source filename : Text) (i : Item) :
    (i.event source filename).isInteger = i.outcome.isInteger := by
  obtain ⟨start, lexeme, outcome⟩ := i
  cases outcome <;> rfl

/-- An item that is digits, as many as there are, and what they stand for. -/
structure Item.ReadsDigits (source : Text) (i : Item) : Prop where
  nonempty : i.lexeme ≠ []
  allDigits : ∀ d ∈ i.lexeme, isDigit d = true
  outcome : i.outcome = .ofDigits i.lexeme
  noneAfter : ∀ d, source[i.stop]? = some d → isDigit d = false

/-- An item is digits and what they stand for, or it is no integer, and a digit in it has
one quote of the item before it. -/
theorem Item.digits_cases (hi : i ∈ items source) :
    i.ReadsDigits source ∨
    (i.outcome.isInteger = false ∧ ∀ n d, i.lexeme[n]? = some d → isDigit d = true →
      (i.lexeme.take n).count '"' = 1) := by
  obtain ⟨rest, hdrop, hfront⟩ := items_front_at hi
  refine hfront.digits_cases.imp_left fun ⟨hne, hdigits, hends, houtcome⟩ => ?_
  refine ⟨hne, hdigits, houtcome, fun d hd => hends d ?_⟩
  rw [Item.head?_rest hdrop, hd]

/-- A digit with an even number of quotes before it is in an item that is digits. -/
theorem exists_item_of_digit {k : Nat} {d : Char} (hd : source[k]? = some d)
    (hdigit : isDigit d = true) (heven : OutsideStrings source k) :
    ∃ i ∈ items source, i.start ≤ k ∧ k < i.stop ∧ i.ReadsDigits source := by
  obtain ⟨i, hi, hstart, hstop⟩ := exists_item_of_ink hd (isBlank_eq_false_of_isDigit hdigit)
  refine ⟨i, hi, hstart, hstop, ?_⟩
  rcases Item.digits_cases hi with hreads | ⟨-, hquote⟩
  · exact hreads
  · -- The quotes before the digit are those before the item, and the one that opens it.
    obtain ⟨rest, hdrop, -⟩ := items_front_at hi
    have hbefore : (source.take i.start).count '"' % 2 = 0 :=
      (layout_itemsFrom 0 source).even_quotes_before i hi
    have hat := (Item.getElem?_lexeme hdrop hstart hstop).trans hd
    have hlength : k - i.start ≤ i.lexeme.length := by
      rw [Item.stop] at hstop
      omega
    have hin : (i.lexeme ++ rest).take (k - i.start) = i.lexeme.take (k - i.start) :=
      List.take_append_of_le_length hlength
    have hk : i.start + (k - i.start) = k := by omega
    have htake : source.take k = source.take i.start ++ i.lexeme.take (k - i.start) := by
      rw [← hin, ← hdrop, ← List.take_add, hk]
    rw [OutsideStrings, htake, List.count_append, hquote _ d hat hdigit] at heven
    omega

/-- A character that is no quote does not change how many quotes there are. -/
theorem outsideStrings_succ {k : Nat} {d : Char} (hd : source[k]? = some d) (hne : d ≠ '"') :
    OutsideStrings source (k + 1) ↔ OutsideStrings source k := by
  simp [OutsideStrings, List.take_add_one, hd, hne]

/-! ### Runs outside of strings are items -/

/-- No digit is directly before an item that is digits. It would be in an item of its own,
and that would not stop in front of a digit. -/
theorem Item.ReadsDigits.noneBefore (h : i.ReadsDigits source) (hi : i ∈ items source) {k : Nat}
    {d : Char} (hk : k + 1 = i.start) (hd : source[k]? = some d) : isDigit d = false := by
  have hlayout := layout_itemsFrom 0 source
  have heven : OutsideStrings source i.start := hlayout.even_quotes_before i hi
  rw [← Bool.not_eq_true]
  intro hdigit
  have hne : d ≠ '"' := by
    rintro rfl
    exact absurd hdigit (by decide)
  rw [← hk, outsideStrings_succ hd hne] at heven
  obtain ⟨j, hj, hstart, hstop, hreads⟩ := exists_item_of_digit hd hdigit heven
  have hlt := hlayout.start_lt_stop i hi
  have hmeet : j.stop = i.start := by
    rcases hlayout.eq_or_apart i hi j hj with rfl | hafter | hbefore
    · omega
    · omega
    · omega
  obtain ⟨rest, hdrop, -⟩ := items_front_at hi
  obtain ⟨e, more, hlexeme⟩ := List.exists_cons_of_ne_nil h.nonempty
  have he : source[j.stop]? = some e := by
    rw [hmeet, ← Item.getElem?_lexeme hdrop (Nat.le_refl _) hlt, Nat.sub_self, hlexeme]
    rfl
  have hfirst := h.allDigits e (hlexeme ▸ List.mem_cons_self)
  rw [hreads.noneAfter e he] at hfirst
  exact Bool.false_ne_true hfirst

/-- An item that is an integer, or an error over one, is a run of digits outside of
strings. -/
theorem Item.digitRun (hi : i ∈ items source) (hinteger : i.outcome.isInteger = true) :
    i.ReadsDigits source ∧ DigitRun source i.start i.lexeme ∧ OutsideStrings source i.start := by
  obtain ⟨rest, hdrop, -⟩ := items_front_at hi
  rcases Item.digits_cases hi with hreads | ⟨hnone, -⟩
  · refine ⟨hreads, ⟨hreads.nonempty, hreads.allDigits, ⟨rest, hdrop.symm⟩, ?_,
      hreads.noneAfter⟩, (layout_itemsFrom 0 source).even_quotes_before i hi⟩
    exact fun k d hk hd => hreads.noneBefore hi hk hd
  · rw [hnone] at hinteger
    exact absurd hinteger Bool.false_ne_true

/-- A run of digits outside of strings is an item, which is an integer or an error over
one. -/
theorem DigitRun.exists_item {start : Nat} {digits : Text} (h : DigitRun source start digits)
    (heven : OutsideStrings source start) :
    ∃ i ∈ items source, i.outcome.isInteger = true ∧ i.start = start ∧ i.lexeme = digits := by
  obtain ⟨after, hafter⟩ := h.stands
  obtain ⟨d, more, hd⟩ := List.exists_cons_of_ne_nil h.nonempty
  have hfirst : source[start]? = some d := by
    rw [← Nat.add_zero start, ← List.getElem?_drop, ← hafter, hd]
    rfl
  obtain ⟨i, hi, hstart, hstop, hreads⟩ :=
    exists_item_of_digit hfirst (h.allDigits d (hd ▸ List.mem_cons_self)) heven
  obtain ⟨rest, hdrop, -⟩ := items_front_at hi
  -- Where the item started earlier, it would have the digit directly before the run.
  obtain rfl : i.start = start := by
    by_contra hne
    have hprevious : i.lexeme[start - 1 - i.start]? = source[start - 1]? :=
      Item.getElem?_lexeme hdrop (by omega) (by omega)
    have hlength : start - 1 - i.start < i.lexeme.length := by
      rw [Item.stop] at hstop
      omega
    rw [List.getElem?_eq_getElem hlength] at hprevious
    have hnot := h.noneBefore (start - 1) _ (by omega) hprevious.symm
    rw [hreads.allDigits _ (List.getElem_mem hlength)] at hnot
    exact Bool.noConfusion hnot
  -- Both are all the digits from there on.
  have hends : StopsAt isDigit rest := by
    intro e he
    rw [Item.head?_rest hdrop] at he
    exact hreads.noneAfter e he
  have hends' : StopsAt isDigit after := by
    intro e he
    refine h.noneAfter e ?_
    rw [← List.getElem?_drop, ← hafter, List.getElem?_append_right (Nat.le_refl _), Nat.sub_self,
      ← List.head?_eq_getElem?, he]
  have hsame := takeWhile_run hreads.allDigits hends
  rw [← hdrop, ← hafter, takeWhile_run h.allDigits hends'] at hsame
  refine ⟨i, hi, ?_, rfl, hsame.symm⟩
  rw [hreads.outcome]
  exact Outcome.isInteger_ofDigits _

/-! ### A whole source -/

/-- The runs of digits outside of strings are the integers of a source, and no more than
ten digits are ever converted to find them. -/
theorem integers_read_whole (source filename : Text) :
    ∃ runs, IntegersWhole source filename runs := by
  have hlayout := layout_itemsFrom 0 source
  refine ⟨((items source).filter fun i => i.outcome.isInteger).map fun i => (i.start, i.lexeme),
    ?inOrder, ?mem_runs, ?merged, ?converts⟩
  case inOrder =>
    exact List.pairwise_map.mpr (hlayout.starts_increase.filter _)
  case mem_runs =>
    intro start digits
    simp only [List.mem_map, List.mem_filter, Prod.mk.injEq]
    constructor
    · rintro ⟨i, ⟨hi, hinteger⟩, rfl, rfl⟩
      exact (Item.digitRun hi hinteger).2
    · rintro ⟨hrun, heven⟩
      obtain ⟨i, hi, hinteger, hstart, hdigits⟩ := hrun.exists_item heven
      exact ⟨i, ⟨hi, hinteger⟩, hstart, hdigits⟩
  case merged =>
    have hfilter : (items source).filter (Event.isInteger ∘ Item.event source filename)
        = (items source).filter fun i => i.outcome.isInteger :=
      List.filter_congr fun i _ => i.isInteger_event source filename
    rw [events_eq, List.filter_map, hfilter, List.map_map]
    refine List.map_congr_left fun i hi => ?_
    obtain ⟨hmem, hinteger⟩ := List.mem_filter.mp hi
    exact Item.event_of_digits (Item.digitRun hmem hinteger).1.outcome
  case converts =>
    intro convert hconvert c hc turns hturns
    obtain ⟨hsound, -⟩ := hc.sound_and_position_le
    refine Cursor.walkNext_eq hconvert ?_
    rw [hsound.rest_eq, List.length_drop]
    omega

end

/-- The conversion used here fails for more than ten digits. It fails for these eleven, but
they are not given to it: the error that is read is of the integer, and is all there is. -/
theorem integers_read_whole_unconverted :
    let source := "99999999999".toList
    let convert : Text → Option Nat :=
      fun digits => if digits.length ≤ 10 then some (decimalValue digits) else none
    let c := Cursor.start source []
    Cursor.ConvertsTen convert ∧ convert source = none ∧ c.walkNext 12 convert = some c.next ∧
      c.next.1 = .error ⟨.malformedInteger,
        "integer literal '99999999999' does not fit in a 32-bit signed integer".toList,
        ⟨1, 1, 0⟩, source, source, []⟩ := by
  intro source convert c
  have hconvert : Cursor.ConvertsTen convert := fun digits _ _ hlength => if_pos hlength
  obtain ⟨runs, hwhole⟩ := integers_read_whole source []
  exact ⟨hconvert, by decide, hwhole.converts convert hconvert c .start 12 (by decide),
    by decide +kernel⟩

end MonkeyScan
