import MonkeyScan.Proofs.Layout
import MonkeyScan.Proofs.Line
import MonkeyScan.Text.Newline

/-!
# `MonkeyScan.Proofs.Newline`: a text and the text with line feeds only

Reading a file turns carriage returns into line feeds before the text is scanned, an
editor hands its text over as it is. Here the two texts are compared.

A cut of a text is safe if it does not part a carriage return from the line feed after
it (`Unparted`): then the two sides are turned one by one. No item of a text starts or
ends in an unsafe place, so the items of the two texts go one with another.

* `Text.unifyNewlines_append`: the sides of a safe cut are turned one by one.
* `Text.count_unifyNewlines`, `Text.lastLine_unifyNewlines`: lines and columns move only
  by carriage returns that stand alone.
* `Front.turned`: what stands at the front stays, but for the content of strings.
* `items_unifyNewlines`: the items of the turned text are those of the text, turned.
-/

set_option autoImplicit false

namespace MonkeyScan

open Scan

namespace Text

/-- Two texts do not part a carriage return from the line feed after it. -/
def Unparted (a b : Text) : Prop :=
  a.getLast? ≠ some '\r' ∨ b.head? ≠ some '\n'

/-- The number of carriage returns that stand alone. -/
def loneReturns : Text → Nat
  | [] => 0
  | '\r' :: '\n' :: rest => loneReturns rest
  | c :: rest => (if c = '\r' then 1 else 0) + loneReturns rest

/-! ### Cuts -/

section
variable {a b t w : Text}

/-- A character that stands in front of a cut, but not right before it, does not
matter. -/
theorem Unparted.of_cons {c : Char} (h : Unparted (c :: a) b) : Unparted a b := by
  refine h.imp_left fun hlast heq => hlast ?_
  rw [List.getLast?_cons, heq]
  rfl

/-- A cut before a character that is no whitespace is safe. -/
theorem Unparted.of_ink {c : Char} (ink : isBlank c = false) : Unparted a (c :: b) :=
  Or.inr fun heq => ne_of_isBlank ink (by decide) (Option.some.inj heq)

/-- A cut is safe behind more text, unless nothing was before it. -/
theorem Unparted.append_left (h : Unparted a b) (hne : a ≠ []) (front : Text) :
    Unparted (front ++ a) b :=
  h.imp_left fun hlast => by rwa [List.getLast?_append_of_ne_nil _ hne]

/-- A cut is safe if it is so before more text. -/
theorem Unparted.of_append {c : Text} (h : Unparted a (b ++ c)) : Unparted a b :=
  h.imp_right fun hhead heq => hhead (by rw [List.head?_append, heq]; rfl)

/-- A character is turned by itself, unless it is a carriage return before a line
feed. -/
theorem unifyNewlines_cons {c : Char} (h : c = '\r' → t.head? ≠ some '\n') :
    unifyNewlines (c :: t) = (if c = '\r' then '\n' else c) :: unifyNewlines t := by
  rw [unifyNewlines]
  rintro rest rfl rfl
  exact h rfl rfl

/-- The sides of a safe cut are turned one by one. -/
theorem unifyNewlines_append (h : Unparted a b) :
    unifyNewlines (a ++ b) = unifyNewlines a ++ unifyNewlines b := by
  fun_induction unifyNewlines a with
  | case1 => rfl
  | case2 rest ih =>
      show '\n' :: unifyNewlines (rest ++ b) = '\n' :: (unifyNewlines rest ++ unifyNewlines b)
      rw [ih h.of_cons.of_cons]
  | case3 c rest hpair ih =>
      rw [List.cons_append, unifyNewlines_cons, ih h.of_cons]
      · rfl
      · rintro rfl hhead
        cases rest with
        | nil => exact h.elim (fun hlast => hlast rfl) (fun hnext => hnext hhead)
        | cons d more => exact hpair more rfl (by rw [Option.some.inj hhead])

/-- A text without carriage returns stays. -/
theorem unifyNewlines_of_not_mem (h : '\r' ∉ t) : unifyNewlines t = t := by
  induction t with
  | nil => rfl
  | cons c rest ih =>
      have hc : c ≠ '\r' := (List.ne_of_not_mem_cons h).symm
      rw [unifyNewlines_cons fun heq => absurd heq hc, if_neg hc,
        ih (List.not_mem_of_not_mem_cons h)]

/-- Nothing is dropped from a text without carriage returns either. -/
theorem dropReturns_of_not_mem (h : '\r' ∉ t) : dropReturns t = t := by
  fun_induction dropReturns t with
  | case1 => rfl
  | case2 rest ih => exact absurd List.mem_cons_self h
  | case3 c rest hnot ih => rw [ih (List.not_mem_of_not_mem_cons h)]

/-- Nothing but line feeds comes in. -/
theorem mem_of_mem_unifyNewlines {c : Char} (h : c ∈ unifyNewlines t) : c ∈ t ∨ c = '\n' := by
  fun_induction unifyNewlines t with
  | case1 => exact absurd h List.not_mem_nil
  | case2 rest ih =>
      rcases List.mem_cons.mp h with rfl | hrest
      · exact Or.inr rfl
      · exact (ih hrest).imp_left fun hmem => by simp [hmem]
  | case3 d rest _ ih =>
      rcases List.mem_cons.mp h with rfl | hrest
      · split
        · exact Or.inr rfl
        · exact Or.inl List.mem_cons_self
      · exact (ih hrest).imp_left (List.mem_cons_of_mem _)

/-- Whitespace is turned into whitespace. -/
theorem isBlank_unifyNewlines (h : ∀ c ∈ t, isBlank c = true) :
    ∀ c ∈ unifyNewlines t, isBlank c = true := by
  intro c hc
  rcases mem_of_mem_unifyNewlines hc with hmem | rfl
  · exact h c hmem
  · decide

/-- A quote is not brought in. -/
theorem quote_not_mem_unifyNewlines (h : '"' ∉ t) : '"' ∉ unifyNewlines t := by
  intro hmem
  rcases mem_of_mem_unifyNewlines hmem with hin | heq
  · exact h hin
  · exact absurd heq (by decide)

/-- What starts a turned text and has no line feed starts the text itself. -/
theorem prefix_of_prefix_unifyNewlines (hw : '\n' ∉ w) (h : w <+: unifyNewlines t) :
    w <+: t := by
  fun_induction unifyNewlines t generalizing w with
  | case1 => exact h
  | case2 rest ih =>
      cases w with
      | nil => exact List.nil_prefix
      | cons c more =>
          obtain ⟨rfl, -⟩ := List.cons_prefix_cons.mp h
          exact absurd List.mem_cons_self hw
  | case3 d rest _ ih =>
      cases w with
      | nil => exact List.nil_prefix
      | cons c more =>
          obtain ⟨hc, hmore⟩ := List.cons_prefix_cons.mp h
          -- A carriage return would have become a line feed.
          have hd : d ≠ '\r' := by
            rintro rfl
            exact List.ne_of_not_mem_cons hw hc.symm
          rw [if_neg hd] at hc
          exact List.cons_prefix_cons.mpr ⟨hc, ih (List.not_mem_of_not_mem_cons hw) hmore⟩

/-! ### Lines and columns -/

/-- Each carriage return that stands alone is one line feed more. -/
theorem count_unifyNewlines (t : Text) :
    (unifyNewlines t).count '\n' = t.count '\n' + loneReturns t := by
  fun_induction unifyNewlines t with
  | case1 => rfl
  | case2 rest ih =>
      simp only [loneReturns, List.count_cons_self, ih]
      rw [List.count_cons_of_ne (by decide), List.count_cons_self]
      omega
  | case3 c rest hpair ih =>
      rw [loneReturns, List.count_cons, List.count_cons, ih]
      · by_cases hc : c = '\r'
        · subst hc
          simp
          omega
        · simp [hc]
          omega
      · exact hpair

/-- The sides of a safe cut have the carriage returns that stand alone in the whole. -/
theorem loneReturns_append (h : Unparted a b) :
    loneReturns (a ++ b) = loneReturns a + loneReturns b := by
  have hwhole := count_unifyNewlines (a ++ b)
  have hleft := count_unifyNewlines a
  have hright := count_unifyNewlines b
  rw [unifyNewlines_append h, List.count_append, List.count_append] at hwhole
  omega

/-- On a line every carriage return stands alone. -/
theorem loneReturns_of_not_mem (h : '\n' ∉ t) : loneReturns t = t.count '\r' := by
  fun_induction loneReturns t with
  | case1 => rfl
  | case2 rest => exact absurd h (by simp)
  | case3 c rest _ ih =>
      rw [ih (List.not_mem_of_not_mem_cons h), List.count_cons]
      simp
      omega

/-- What ends in a line feed does so when it is turned. -/
theorem exists_unifyNewlines_append_newline (a : Text) :
    ∃ above, unifyNewlines (a ++ ['\n']) = above ++ ['\n'] := by
  rcases List.eq_nil_or_concat' a with rfl | ⟨front, c, rfl⟩
  · exact ⟨[], rfl⟩
  by_cases hc : c = '\r'
  · -- The carriage return before the line feed is dropped.
    subst hc
    have hcut : Unparted front ['\r', '\n'] := Or.inr (by decide)
    exact ⟨unifyNewlines front, by rw [List.append_assoc]; exact unifyNewlines_append hcut⟩
  · have hcut : Unparted (front ++ [c]) ['\n'] := Or.inl (by simpa using hc)
    exact ⟨unifyNewlines (front ++ [c]), unifyNewlines_append hcut⟩

/-- A line on which no carriage return stands alone stays. -/
theorem unifyNewlines_line (hline : '\n' ∉ t) (hlone : loneReturns t = 0) :
    unifyNewlines t = t := by
  rw [loneReturns_of_not_mem hline, List.count_eq_zero] at hlone
  exact unifyNewlines_of_not_mem hlone

/-- Where no carriage return stands alone the last line stays. -/
theorem lastLine_unifyNewlines (h : loneReturns t = 0) :
    lastLine (unifyNewlines t) = lastLine t := by
  rcases lastLine_cases t with ⟨hnone, -⟩ | ⟨above, habove⟩
  · rw [unifyNewlines_line hnone h]
  · have hline := newline_not_mem_lastLine t
    generalize lastLine t = line at habove hline ⊢
    have hcut : Unparted (above ++ ['\n']) line := Or.inl (by simp)
    rw [habove, List.append_cons, loneReturns_append hcut] at h
    obtain ⟨turned, hturned⟩ := exists_unifyNewlines_append_newline above
    rw [habove, List.append_cons, unifyNewlines_append hcut, unifyNewlines_line hline (by omega),
      hturned, List.append_assoc]
    exact lastLine_append_newline hline

end

end Text

/-! ### Lexemes -/

open Text (Unparted unifyNewlines unifyNewlines_append unifyNewlines_cons)

/-- An outcome in the turned text: strings are turned with it. -/
def Scan.Outcome.unifyNewlines : Outcome → Outcome
  | .token .string (some (.text content)) =>
    .token .string (some (.text (Text.unifyNewlines content)))
  | o => o

section
variable {m rest : Text} {o : Outcome}

/-- The quotes of a string stay. -/
theorem unifyNewlines_quoted (content : Text) :
    unifyNewlines ('"' :: (content ++ ['"'])) = '"' :: (unifyNewlines content ++ ['"']) := by
  rw [unifyNewlines_cons fun h => absurd h (by decide),
    unifyNewlines_append (Or.inr (by decide))]
  rfl

namespace Lexeme

/-- A lexeme that starts with a quote is a string. -/
theorem exists_content (h : Lexeme m) (hquote : m.head? = some '"') :
    ∃ content, m = '"' :: (content ++ ['"']) ∧ '"' ∉ content := by
  obtain ⟨more, rfl⟩ := List.head?_eq_some_iff.mp hquote
  obtain ⟨content, rfl, hclosed⟩ := h.of_quote
  exact ⟨content, rfl, hclosed⟩

/-- A lexeme that is no string has no whitespace in it. -/
theorem not_mem_of_isBlank (h : Lexeme m) (hquote : m.head? ≠ some '"') {c : Char}
    (hc : Text.isBlank c = true) : c ∉ m := by
  intro hmem
  obtain ⟨content, rfl, -⟩ := h.eq_quoted_of_blank_mem hc hmem
  exact hquote rfl

/-- A lexeme that is no string stays. -/
theorem unifyNewlines_eq (h : Lexeme m) (hquote : m.head? ≠ some '"') : unifyNewlines m = m :=
  Text.unifyNewlines_of_not_mem (h.not_mem_of_isBlank hquote (by decide))

/-- A lexeme does not end in a carriage return. -/
theorem unparted (h : Lexeme m) (rest : Text) : Unparted m rest := by
  left
  intro hlast
  obtain ⟨content, rfl, -⟩ :=
    h.eq_quoted_of_blank_mem (x := '\r') (by decide) (List.mem_of_getLast? hlast)
  rw [← List.cons_append, List.getLast?_concat] at hlast
  exact absurd hlast (by decide)

/-- A lexeme is turned into a lexeme. -/
theorem turned (h : Lexeme m) : Lexeme (unifyNewlines m) := by
  by_cases hquote : m.head? = some '"'
  · obtain ⟨content, rfl, hclosed⟩ := h.exists_content hquote
    rw [unifyNewlines_quoted]
    exact .quoted (Text.quote_not_mem_unifyNewlines hclosed)
  · rw [h.unifyNewlines_eq hquote]
    exact h

end Lexeme

/-- What a lexeme stands for is turned with it. -/
theorem Denotes.turned (h : Denotes m o) : Denotes (unifyNewlines m) o.unifyNewlines := by
  have hstays : m.head? ≠ some '"' → unifyNewlines m = m := h.lexeme.unifyNewlines_eq
  cases h with
  | string closed =>
      rw [unifyNewlines_quoted]
      exact .string (Text.quote_not_mem_unifyNewlines closed)
  | symbol s =>
      rw [hstays (by cases s <;> decide)]
      exact .symbol s
  | keyword k =>
      rw [hstays (by cases k <;> decide)]
      exact .keyword k
  | identifier first others free =>
      rw [hstays (by rintro ⟨⟩; exact absurd first (by decide))]
      exact .identifier first others free
  | integer first others fits =>
      rw [hstays (by rintro ⟨⟩; exact absurd first (by decide))]
      exact .integer first others fits
  | malformed first others large =>
      rw [hstays (by rintro ⟨⟩; exact absurd first (by decide))]
      exact .malformed first others large

/-- The longest lexeme is turned into the longest lexeme. -/
theorem LongestLexeme.turned (h : LongestLexeme (m ++ rest) m) :
    LongestLexeme (unifyNewlines m ++ unifyNewlines rest) (unifyNewlines m) := by
  refine ⟨h.lexeme.turned, List.prefix_append _ _, ?_⟩
  intro w hw hlex
  by_cases hquote : w.head? = some '"'
  · -- A string is no proper part of a lexeme, and no lexeme a proper part of a string.
    obtain ⟨inner, rfl, hclosed⟩ := hlex.exists_content hquote
    rcases List.prefix_or_prefix_of_prefix hw (List.prefix_append _ _) with hle | hle
    · exact hle.length_le
    · exact (congrArg List.length (h.lexeme.turned.eq_of_prefix_quoted hclosed hle)).ge
  · -- Any other lexeme has no line feed in it, so it starts the text before turning.
    rw [← unifyNewlines_append (h.lexeme.unparted rest)] at hw
    have hbefore : w <+: m ++ rest :=
      Text.prefix_of_prefix_unifyNewlines (hlex.not_mem_of_isBlank hquote (by decide)) hw
    have hfirst : m.head? ≠ some '"' := by
      obtain ⟨more, hsplit⟩ := hbefore
      have hheads := congrArg List.head? hsplit
      rw [List.head?_append_of_ne_nil _ hlex.ne_nil,
        List.head?_append_of_ne_nil _ h.lexeme.ne_nil] at hheads
      exact hheads ▸ hquote
    rw [h.lexeme.unifyNewlines_eq hfirst]
    exact h.longest w hbefore hlex

namespace Front

/-- What stands at the front does not end in a carriage return, or nothing follows it. -/
theorem unparted (h : Front (m ++ rest) m o) : Unparted m rest := by
  generalize ht : m ++ rest = t at h
  cases h with
  | lexeme longest => exact longest.lexeme.unparted rest
  | unterminated =>
      obtain rfl : rest = [] := List.append_right_eq_self.mp ht
      exact Or.inr (by decide)
  | illegal ink =>
      exact Or.inl fun hlast => Text.ne_of_isBlank ink (by decide) (Option.some.inj hlast)

/-- What stands at the front is turned with it. -/
theorem turned (h : Front (m ++ rest) m o) :
    Front (unifyNewlines m ++ unifyNewlines rest) (unifyNewlines m) o.unifyNewlines := by
  generalize ht : m ++ rest = t at h
  cases h with
  | lexeme longest denotes =>
      rw [← ht] at longest
      exact .lexeme longest.turned denotes.turned
  | @unterminated rest' opened =>
      obtain rfl : rest = [] := List.append_right_eq_self.mp ht
      rw [unifyNewlines_cons fun h => absurd h (by decide)]
      show Front (_ ++ []) _ _
      rw [List.append_nil]
      exact .unterminated (Text.quote_not_mem_unifyNewlines opened)
  | @illegal c rest' ink stray =>
      have hc : c ≠ '\r' := Text.ne_of_isBlank ink (by decide)
      rw [unifyNewlines_cons fun h => absurd h hc, if_neg hc]
      exact .illegal ink stray

end Front

end

/-! ### Items -/

/-- An item in the turned text. -/
def Item.unifyNewlines (t : Text) (i : Item) : Item :=
  ⟨(Text.unifyNewlines (t.take i.start)).length, Text.unifyNewlines i.lexeme,
    i.outcome.unifyNewlines⟩

/-- The layout of what follows a safe cut is turned with the whole. -/
theorem Layout.turned (before : Text) {t : Text} {found : List Item}
    (h : Layout before.length t found) (hcut : Unparted before t) :
    Layout (unifyNewlines before).length (unifyNewlines t)
      (found.map (Item.unifyNewlines (before ++ t))) := by
  generalize hoffset : before.length = offset at h
  induction h generalizing before with
  | blank gap => exact .blank (Text.isBlank_unifyNewlines gap)
  | @item offset gap lexeme rest outcome more blank front tail ih =>
      obtain ⟨c, others, rfl, ink⟩ := front.exists_head
      -- No cut around the gap or the lexeme parts a carriage return from its line feed.
      have hgap : Unparted before gap := hcut.of_append
      have hrest : Unparted (before ++ gap ++ c :: others) rest :=
        front.unparted.append_left (List.cons_ne_nil _ _) _
      have htail := ih (before ++ gap ++ c :: others) hrest (by simp [hoffset, Nat.add_assoc])
      have hstart : (before ++ (gap ++ (c :: others ++ rest))).take (offset + gap.length)
          = before ++ gap := by
        rw [← List.append_assoc, ← hoffset, ← List.length_append, List.take_left]
      rw [unifyNewlines_append (Unparted.of_ink ink), unifyNewlines_append hgap,
        List.length_append, List.length_append, List.append_assoc, List.append_assoc] at htail
      rw [List.cons_append, unifyNewlines_append (Unparted.of_ink ink), ← List.cons_append,
        unifyNewlines_append front.unparted, List.map_cons, Item.unifyNewlines, hstart,
        unifyNewlines_append hgap, List.length_append]
      exact .item (Text.isBlank_unifyNewlines blank) front.turned htail

/-- The items of the turned text are those of the text, turned. -/
theorem items_unifyNewlines (t : Text) :
    items (unifyNewlines t) = (items t).map (Item.unifyNewlines t) :=
  (Layout.turned [] (layout_itemsFrom 0 t) (Or.inl (by decide))).itemsFrom_eq

end MonkeyScan
