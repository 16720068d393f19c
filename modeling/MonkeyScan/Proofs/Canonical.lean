import Mathlib.Data.List.Forall2
import MonkeyScan.Proofs.Concatenation
import MonkeyScan.Proofs.Event
import MonkeyScan.Proofs.Spelling

/-!
# `MonkeyScan.Proofs.Canonical`: printing tokens and reading them back

`Canonical` describes what tokens can say, without reference to a source. The
tokens of every source are canonical, and every list of canonical tokens is
read back from a text that it is written as, whatever whitespace stands
between the tokens.

* `Front.canonical`: a token at the front of a text is canonical.
* `Canonical.front`: the text that a canonical token is spelled as has this
  token at its front, and nothing after it.
* `Joined.outcomes_items`: the items of spelled tokens with whitespace between
  them are these tokens.
* `canonical_round_trip`: what is written is read back.
-/

set_option autoImplicit false

namespace MonkeyScan

open Scan

/-! ### What tokens say and how they are written -/

/-- What a token other than the end of the input can say. -/
inductive Canonical : Kind × Option Value → Prop where
  | keyword (k : Keyword) : Canonical (.keyword k, none)
  | symbol (s : Symbol) : Canonical (.symbol s, none)
  | identifier {c : Char} {more : Text} (first : isWordStart c = true)
      (others : ∀ d ∈ more, isWordChar d = true)
      (free : ∀ k : Keyword, k.spelling ≠ c :: more) :
      Canonical (.identifier, some (.text (c :: more)))
  | integer {n : Nat} (fits : n ≤ maxInteger) : Canonical (.integer, some (.number n))
  | string {content : Text} (closed : '"' ∉ content) :
      Canonical (.string, some (.text content))
  | illegal {c : Char} (ink : Text.isBlank c = false) (stray : ∀ w, ¬ Lexeme (c :: w)) :
      Canonical (.illegal, some (.text [c]))

/-- The shortest text that says the same as a token. -/
def written : Kind × Option Value → Text
  | (.keyword k, _) => k.spelling
  | (.symbol s, _) => s.spelling
  | (.integer, some (.number n)) => Text.ofInt n
  | (.string, some (.text content)) => '"' :: (content ++ ['"'])
  | (_, some (.text t)) => t
  | _ => []

/-- Texts joined by whitespace: at least one character of it between two, and
none around them. -/
inductive Joined : List Text → Text → Prop where
  | none : Joined [] []
  | one (w : Text) : Joined [w] w
  | more {w next gap t : Text} {others : List Text} (nonempty : gap ≠ [])
      (blank : ∀ c ∈ gap, Text.isBlank c = true) (tail : Joined (next :: others) t) :
      Joined (w :: next :: others) (w ++ gap ++ t)

/-- Texts with single spaces between them are joined. -/
theorem joined_intercalate (words : List Text) : Joined words ([' '].intercalate words) := by
  have hspace : ∀ c ∈ [' '], Text.isBlank c = true := List.forall_mem_singleton.mpr (by decide)
  induction words with
  | nil => exact .none
  | cons w others ih =>
      cases others with
      | nil =>
          rw [List.intercalate_singleton]
          exact .one w
      | cons next others =>
          rw [List.intercalate_cons_cons]
          exact .more (List.cons_ne_nil _ _) hspace ih

/-! ### One token -/

/-- A token at the front of a text is canonical. -/
theorem Front.canonical {t m : Text} {kind : Kind} {value : Option Value}
    (h : Front t m (.token kind value)) : Canonical (kind, value) := by
  cases h with
  | lexeme _ denotes =>
      cases denotes with
      | symbol s => exact .symbol s
      | keyword k => exact .keyword k
      | identifier first others free => exact .identifier first others free
      | integer _ _ fits => exact .integer fits
      | string closed => exact .string closed
  | illegal ink stray => exact .illegal ink stray

/-- A lexeme stands at its own front. -/
theorem Denotes.front {w : Text} {o : Outcome} (h : Denotes w o) : Front w w o :=
  .lexeme ⟨h.lexeme, List.prefix_rfl, fun _ hw _ => hw.length_le⟩ h

namespace Canonical

variable {said : Kind × Option Value}

/-- A canonical token stands at the front of every text that it is spelled as,
and takes all of it. -/
theorem front {w : Text} (h : Canonical said) (hw : Spells said w) :
    Front w w (.token said.1 said.2) := by
  cases h with
  | keyword k =>
      cases hw
      exact (Denotes.keyword k).front
  | symbol s =>
      cases hw
      exact (Denotes.symbol s).front
  | identifier first others free =>
      cases hw
      exact (Denotes.identifier first others free).front
  | integer fits =>
      -- Leading zeros leave the value as it is, so any run of digits with it will do.
      cases hw with
      | integer nonempty all =>
          obtain ⟨c, more, rfl⟩ := List.exists_cons_of_ne_nil nonempty
          obtain ⟨first, others⟩ := List.forall_mem_cons.mp all
          exact (Denotes.integer first others fits).front
  | string closed =>
      cases hw
      exact (Denotes.string closed).front
  | illegal ink stray =>
      cases hw
      exact .illegal ink stray

/-- A canonical token is spelled as it is written. -/
theorem spells_written (h : Canonical said) : Spells said (written said) := by
  cases h with
  | keyword k => exact .keyword k
  | symbol s => exact .symbol s
  | identifier => exact .identifier _
  | @integer n =>
      have hvalue : decimalValue (Nat.toDigits 10 n) = n :=
        Nat.ofDigitChars_toDigits (by decide) (by decide)
      have hspells := Spells.integer (Nat.toDigits_ne_nil (n := n) (b := 10))
        fun d hd => Nat.isDigit_of_mem_toDigits (by decide) (by decide) hd
      rw [hvalue] at hspells
      exact hspells
  | string => exact .string _
  | illegal => exact .illegal _

end Canonical

/-! ### Lists of tokens -/

/-- The outcome that gives a token. -/
def Scan.Outcome.ofContent (said : Kind × Option Value) : Outcome :=
  .token said.1 said.2

/-- A text that has itself at its front has one item. -/
theorem items_of_front {w : Text} {o : Outcome} (h : Front w w o) : items w = [⟨0, w, o⟩] := by
  have hfront : Front (w ++ []) w o := by
    rw [List.append_nil]
    exact h
  have hblank : ∀ c ∈ ([] : Text), Text.isBlank c = true := fun _ hc => nomatch hc
  have hitems : itemsFrom 0 ([] ++ (w ++ [])) = _ := itemsFrom_of_front hblank hfront
  rw [itemsFrom_nil, List.nil_append, List.append_nil] at hitems
  exact hitems

/-- The items of spelled tokens with whitespace between them are the tokens. -/
theorem Joined.outcomes_items {words : List Text} {t : Text} (h : Joined words t)
    {said : List (Kind × Option Value)} (hsaid : ∀ c ∈ said, Canonical c)
    (hwords : List.Forall₂ Spells said words) :
    (items t).map Item.outcome = said.map Outcome.ofContent := by
  induction h generalizing said with
  | none =>
      cases hwords
      rw [items, itemsFrom_nil]
      rfl
  | one w =>
      cases hwords with
      | cons hw hnil =>
          cases hnil
          rw [items_of_front ((hsaid _ List.mem_cons_self).front hw)]
          rfl
  | @more w next gap t others nonempty blank _ ih =>
      cases hwords with
      | @cons c _ rest _ hw hothers =>
          have hitem := items_of_front ((hsaid c List.mem_cons_self).front hw)
          -- The word is one whole token, so no string is open where the whitespace starts.
          have hclosed : ∀ i ∈ items w, i.outcome ≠ .fault .unterminatedString := by
            intro i hi
            rw [hitem, List.mem_singleton] at hi
            rw [hi]
            exact Outcome.noConfusion
          have hrest := ih (fun d hd => hsaid d (List.mem_cons_of_mem _ hd)) hothers
          rw [items_append nonempty blank hclosed, hitem, List.map_append, List.map_map]
          show Outcome.ofContent c :: (items t).map Item.outcome
            = Outcome.ofContent c :: rest.map Outcome.ofContent
          rw [hrest]

/-- The tokens of items that are all tokens say what the items are. -/
theorem content_filterMap_token? {found : List Item} {said : List (Kind × Option Value)}
    (h : found.map Item.outcome = said.map Outcome.ofContent) :
    (found.filterMap Item.token?).map Token.content = said := by
  induction found generalizing said with
  | nil =>
      cases said with
      | nil => rfl
      | cons => exact absurd h (List.cons_ne_nil _ _).symm
  | cons i more ih =>
      cases said with
      | nil => exact absurd h (List.cons_ne_nil _ _)
      | cons c rest =>
          obtain ⟨hfirst, hrest⟩ := List.cons.inj h
          have htoken : i.token? = some ⟨c.1, c.2, i.start⟩ := by
            simp only [Item.token?, hfirst, Outcome.ofContent]
          rw [List.filterMap_cons_some htoken, List.map_cons, ih hrest]
          rfl

/-- A source whose items are all tokens is read without error. -/
theorem tokenize_of_outcomes {source : Text} (filename : Text)
    {said : List (Kind × Option Value)}
    (h : (items source).map Item.outcome = said.map Outcome.ofContent) :
    ∃ tokens, tokenize source filename = .ok tokens ∧
      tokens.map Token.content = said ++ [(.endOfInput, none)] := by
  have hnone : (items source).findSome?
      (Item.error? source filename (LineIndex.ofText source)) = none := by
    rw [List.findSome?_eq_none_iff]
    intro i hi
    have hmem : i.outcome ∈ said.map Outcome.ofContent := by
      rw [← h]
      exact List.mem_map_of_mem hi
    obtain ⟨c, -, hc⟩ := List.mem_map.mp hmem
    simp only [Item.error?, ← hc, Outcome.ofContent]
  refine ⟨(items source).filterMap Item.token? ++ [endToken source], ?_, ?_⟩
  · simp only [tokenize, hnone]
  · rw [List.map_append, content_filterMap_token? h]
    rfl

/-- The tokens that a source is read as without error are all its tokens. -/
theorem tokenizeAll_of_tokenize {source filename : Text} {tokens : List Token}
    (h : tokenize source filename = .ok tokens) : (tokenizeAll source filename).1 = tokens := by
  rw [tokenize] at h
  split at h
  · exact nomatch h
  · exact Except.ok.inj h

/-- The tokens of a source are canonical up to the end of the input. -/
theorem canonical_tokens (source filename : Text) :
    ∃ before, (tokenizeAll source filename).1 = before ++ [endToken source] ∧
      ∀ t ∈ before, Canonical t.content := by
  refine ⟨(items source).filterMap Item.token?, rfl, fun t ht => ?_⟩
  obtain ⟨i, hi, houtcome, -⟩ := mem_filterMap_token?.mp ht
  obtain ⟨rest, -, hfront⟩ := (layout_itemsFrom 0 source).front_at i hi
  rw [houtcome] at hfront
  exact hfront.canonical

/-- Canonical tokens, spelled and joined by whitespace, are read back. -/
theorem tokenize_joined {said : List (Kind × Option Value)} {words : List Text} {t : Text}
    (filename : Text) (hsaid : ∀ c ∈ said, Canonical c) (hwords : List.Forall₂ Spells said words)
    (hjoined : Joined words t) :
    ∃ tokens, tokenize t filename = .ok tokens ∧
      tokens.map Token.content = said ++ [(.endOfInput, none)] :=
  tokenize_of_outcomes filename (hjoined.outcomes_items hsaid hwords)

/-- What a source is read as without error, spelled and joined by whitespace, is
read as the same again. -/
theorem tokenize_again {source filename t : Text} {tokens : List Token} {words : List Text}
    (filename' : Text) (h : tokenize source filename = .ok tokens)
    (hwords : List.Forall₂ Spells (tokens.dropLast.map Token.content) words)
    (hjoined : Joined words t) :
    ∃ again, tokenize t filename' = .ok again ∧
      again.map Token.content = tokens.map Token.content := by
  -- All that is read is canonical, up to the end of the input, which is read each time.
  obtain ⟨before, htokens, hcanonical⟩ := canonical_tokens source filename
  rw [tokenizeAll_of_tokenize h] at htokens
  rw [htokens, List.dropLast_concat] at hwords
  have hsaid : ∀ c ∈ before.map Token.content, Canonical c := List.forall_mem_map.mpr hcanonical
  obtain ⟨again, hagain, hcontent⟩ := tokenize_joined filename' hsaid hwords hjoined
  refine ⟨again, hagain, ?_⟩
  rw [hcontent, htokens, List.map_append]
  rfl

/-- Tokens are canonical, canonical tokens can be written, and what is written is
read back. -/
theorem canonical_round_trip :
    (∀ source filename : Text, ∃ before,
      (tokenizeAll source filename).1 = before ++ [endToken source] ∧
      ∀ t ∈ before, Canonical t.content) ∧
    (∀ c, Canonical c → Spells c (written c)) ∧
    (∀ (said : List (Kind × Option Value)) (words : List Text) (t filename : Text),
      (∀ c ∈ said, Canonical c) → List.Forall₂ Spells said words → Joined words t →
      ∃ tokens, tokenize t filename = .ok tokens ∧
        tokens.map Token.content = said ++ [(.endOfInput, none)]) ∧
    (∀ (source filename filename' : Text) (tokens : List Token) (words : List Text),
      tokenize source filename = .ok tokens →
      List.Forall₂ Spells (tokens.dropLast.map Token.content) words →
      ∃ again, tokenize ([' '].intercalate words) filename' = .ok again ∧
        again.map Token.content = tokens.map Token.content) := by
  refine ⟨canonical_tokens, fun c hc => hc.spells_written, ?_, ?_⟩
  · intro said words t filename hsaid hwords hjoined
    exact tokenize_joined filename hsaid hwords hjoined
  · intro source filename filename' tokens words h hwords
    exact tokenize_again filename' h hwords (joined_intercalate words)

/-- Leading zeros and the choice of whitespace make no difference. -/
theorem canonical_round_trip_zeros :
    let said : List (Kind × Option Value) :=
      [(.keyword .ifWord, none), (.integer, some (.number 7)), (.symbol .semicolon, none)]
    let words := ["if".toList, "007".toList, ";".toList]
    (∀ c ∈ said, Canonical c) ∧ List.Forall₂ Spells said words ∧
      Joined words "if\t007 \n;".toList ∧
      (∃ tokens, tokenize "if\t007 \n;".toList [] = .ok tokens ∧
        tokens.map Token.content = said ++ [(.endOfInput, none)]) ∧
      ∃ tokens, tokenize "if 7;".toList [] = .ok tokens ∧
        ∃ again, tokenize ([' '].intercalate words) [] = .ok again ∧
          again.map Token.content = tokens.map Token.content := by
  intro said words
  have hsaid : ∀ c ∈ said, Canonical c := by
    refine List.forall_mem_cons.mpr ⟨.keyword .ifWord, List.forall_mem_cons.mpr ⟨?_, ?_⟩⟩
    · exact .integer (n := 7) (by decide)
    · exact List.forall_mem_singleton.mpr (.symbol .semicolon)
  have hzeros : Spells (.integer, some (.number 7)) "007".toList :=
    .integer (List.cons_ne_nil '0' ['0', '7']) (List.all_eq_true.mp (by decide))
  have hwords : List.Forall₂ Spells said words :=
    .cons (.keyword .ifWord) (.cons hzeros (.cons (.symbol .semicolon) .nil))
  have hjoined : Joined words "if\t007 \n;".toList :=
    .more (List.cons_ne_nil '\t' []) (List.all_eq_true.mp (by decide))
      (.more (List.cons_ne_nil ' ' ['\n']) (List.all_eq_true.mp (by decide)) (.one _))
  obtain ⟨-, -, hread, hagain⟩ := canonical_round_trip
  refine ⟨hsaid, hwords, hjoined, hread said words _ [] hsaid hwords hjoined, ?_⟩
  let tokens : List Token :=
    [⟨.keyword .ifWord, none, 0⟩, ⟨.integer, some (.number 7), 3⟩,
      ⟨.symbol .semicolon, none, 4⟩, ⟨.endOfInput, none, 5⟩]
  have htokens : tokenize "if 7;".toList [] = .ok tokens := by decide +kernel
  exact ⟨tokens, htokens, hagain _ [] [] tokens words htokens hwords⟩

end MonkeyScan
