import MonkeyScan.Proofs.Event
import MonkeyScan.Proofs.Reading
import MonkeyScan.Proofs.Spelling
import MonkeyScan.Tokenize

/-!
# `MonkeyScan.Proofs.Modes`: the strict and the collecting reading

A source is read in two ways. Both ask one cursor for the next token again and
again. The strict reading yields tokens until the end of the input, and an error
ends it. The collecting reading keeps errors apart and goes on behind each.
`Cursor.Yields` and `Cursor.Collects` are the two loops, round by round. They
say nothing of the items of the source, by which `tokenize` and `tokenizeAll`
are defined.

* `Sound.next_cases`: one reading takes the next item, or the end of the input.
* `Sound.exists_collects`, `Sound.exists_yields`: so each loop comes to an end,
  with what the items are.
* `tokens_around`: tokens in front of an error start before it, the others after it.
* `modes_agree`: where there is no error the two readings give the same tokens.
  Else the strict one gives the first error, after the tokens in front of it.
-/

set_option autoImplicit false

namespace MonkeyScan

open Scan

/-! ### The two readings by the items -/

section
variable (source filename : Text)

/-- The strict reading gives the first of the collected errors, or else the collected
tokens. -/
theorem tokenize_eq :
    tokenize source filename =
      match (tokenizeAll source filename).2 with
      | [] => .ok (tokenizeAll source filename).1
      | e :: _ => .error e := by
  have hhead : (tokenizeAll source filename).2.head?
      = (items source).findSome? (Item.error? source filename (LineIndex.ofText source)) :=
    List.head?_filterMap
  rw [tokenize, ← hhead]
  cases (tokenizeAll source filename).2 <;> rfl

/-- Errors are collected in the order of their offsets. -/
theorem errors_increase :
    (tokenizeAll source filename).2.Pairwise
      fun e e' => e.position.offset < e'.position.offset := by
  refine List.Pairwise.filterMap _ ?_ (layout_itemsFrom 0 source).starts_increase
  intro i j hlt e he e' he'
  have hlt : i.start < j.start := hlt
  rw [(Item.error?_eq_some he).1, (Item.error?_eq_some he').1]
  show (i.start : Int) < j.start
  omega

end

section
variable {source : Text} {before later : List Item} {i : Item} (filename : Text)

/-- The tokens of a source are those of the items in front of an error and those behind
it. The first start before it, the others after it. -/
theorem tokens_around (h : items source = before ++ i :: later) (hi : i.token? = none) :
    (tokenizeAll source filename).1 = before.filterMap Item.token?
        ++ (later.filterMap Item.token? ++ [endToken source]) ∧
      (∀ t ∈ before.filterMap Item.token?, t.offset < (i.start : Int)) ∧
      ∀ t ∈ later.filterMap Item.token? ++ [endToken source], (i.start : Int) < t.offset := by
  have hlayout := layout_itemsFrom 0 source
  have hincrease : (before ++ i :: later).Pairwise fun j k => j.start < k.start :=
    h ▸ hlayout.starts_increase
  obtain ⟨-, hbehind, hbefore⟩ := List.pairwise_append.mp hincrease
  refine ⟨?_, ?_, ?_⟩
  · show (items source).filterMap Item.token? ++ [endToken source] = _
    rw [h, List.filterMap_append, List.filterMap_cons_none hi, List.append_assoc]
  · intro t ht
    obtain ⟨j, hj, -, hoffset⟩ := mem_filterMap_token?.mp ht
    have hlt := hbefore j hj i List.mem_cons_self
    omega
  · intro t ht
    rcases List.mem_append.mp ht with hlater | hend
    · obtain ⟨j, hj, -, hoffset⟩ := mem_filterMap_token?.mp hlater
      have hlt := (List.pairwise_cons.mp hbehind).1 j hj
      omega
    · -- The end of the input is not before the end of any item.
      have hmem : i ∈ items source := by simp [h]
      have hlt := hlayout.start_lt_stop i hmem
      have hle := hlayout.stop_le i hmem
      rw [List.mem_singleton.mp hend]
      show (i.start : Int) < source.length
      omega

/-- The tokens that start before an error. -/
theorem filter_offset_lt (h : items source = before ++ i :: later) (hi : i.token? = none) :
    (tokenizeAll source filename).1.filter (fun t => t.offset < (i.start : Int))
      = before.filterMap Item.token? := by
  obtain ⟨htokens, hbefore, hbehind⟩ := tokens_around filename h hi
  rw [htokens, List.filter_append, List.filter_eq_self.mpr, List.filter_eq_nil_iff.mpr,
    List.append_nil]
  · intro t ht
    have hlt := hbehind t ht
    rw [decide_eq_true_eq]
    omega
  · exact fun t ht => decide_eq_true (hbefore t ht)

/-- The tokens that start after an error. -/
theorem filter_lt_offset (h : items source = before ++ i :: later) (hi : i.token? = none) :
    (tokenizeAll source filename).1.filter (fun t => (i.start : Int) < t.offset)
      = later.filterMap Item.token? ++ [endToken source] := by
  obtain ⟨htokens, hbefore, hbehind⟩ := tokens_around filename h hi
  rw [htokens, List.filter_append, List.filter_eq_nil_iff.mpr, List.filter_eq_self.mpr,
    List.nil_append]
  · exact fun t ht => decide_eq_true (hbehind t ht)
  · intro t ht
    have hlt := hbefore t ht
    rw [decide_eq_true_eq]
    omega

end

namespace Cursor

/-! ### The loops -/

/-- The strict reading from a cursor: the tokens that it yields one by one, how it
ends, and the cursor that it leaves. -/
inductive Yields : Cursor → List Token → Except ScanError Unit → Cursor → Prop where
  | last {c after : Cursor} {t : Token} (next : c.next = (.ok t, after))
      (atEnd : t.kind = .endOfInput) : Yields c [t] (.ok ()) after
  | token {c after last : Cursor} {t : Token} {tokens : List Token}
      {ending : Except ScanError Unit} (next : c.next = (.ok t, after))
      (goesOn : t.kind ≠ .endOfInput) (tail : Yields after tokens ending last) :
      Yields c (t :: tokens) ending last
  | error {c after : Cursor} {e : ScanError} (next : c.next = (.error e, after)) :
      Yields c [] (.error e) after

/-- The collecting reading from a cursor: the tokens and the errors that it keeps, and
the cursor that it leaves. -/
inductive Collects : Cursor → List Token → List ScanError → Cursor → Prop where
  | last {c after : Cursor} {t : Token} (next : c.next = (.ok t, after))
      (atEnd : t.kind = .endOfInput) : Collects c [t] [] after
  | token {c after last : Cursor} {t : Token} {tokens : List Token} {errors : List ScanError}
      (next : c.next = (.ok t, after)) (goesOn : t.kind ≠ .endOfInput)
      (tail : Collects after tokens errors last) : Collects c (t :: tokens) errors last
  | error {c after last : Cursor} {e : ScanError} {tokens : List Token}
      {errors : List ScanError} (next : c.next = (.error e, after))
      (tail : Collects after tokens errors last) : Collects c tokens (e :: errors) last

variable {source filename : Text} {c : Cursor}

/-- The strict reading has one course. -/
theorem Yields.unique {tokens tokens' : List Token} {ending ending' : Except ScanError Unit}
    {last last' : Cursor} (h : Yields c tokens ending last)
    (h' : Yields c tokens' ending' last') :
    tokens = tokens' ∧ ending = ending' ∧ last = last' := by
  induction h generalizing tokens' with
  | last next atEnd =>
      cases h' with
      | last next' _ =>
          cases next.symm.trans next'
          exact ⟨rfl, rfl, rfl⟩
      | token next' goesOn _ =>
          cases next.symm.trans next'
          exact absurd atEnd goesOn
      | error next' => cases next.symm.trans next'
  | token next goesOn _ ih =>
      cases h' with
      | last next' atEnd =>
          cases next.symm.trans next'
          exact absurd atEnd goesOn
      | token next' _ tail' =>
          cases next.symm.trans next'
          obtain ⟨rfl, rfl, rfl⟩ := ih tail'
          exact ⟨rfl, rfl, rfl⟩
      | error next' => cases next.symm.trans next'
  | error next =>
      cases h' with
      | last next' _ => cases next.symm.trans next'
      | token next' _ _ => cases next.symm.trans next'
      | error next' =>
          cases next.symm.trans next'
          exact ⟨rfl, rfl, rfl⟩

/-- The collecting reading has one course. -/
theorem Collects.unique {tokens tokens' : List Token} {errors errors' : List ScanError}
    {last last' : Cursor} (h : Collects c tokens errors last)
    (h' : Collects c tokens' errors' last') :
    tokens = tokens' ∧ errors = errors' ∧ last = last' := by
  induction h generalizing tokens' errors' with
  | last next atEnd =>
      cases h' with
      | last next' _ =>
          cases next.symm.trans next'
          exact ⟨rfl, rfl, rfl⟩
      | token next' goesOn _ =>
          cases next.symm.trans next'
          exact absurd atEnd goesOn
      | error next' _ => cases next.symm.trans next'
  | token next goesOn _ ih =>
      cases h' with
      | last next' atEnd =>
          cases next.symm.trans next'
          exact absurd atEnd goesOn
      | token next' _ tail' =>
          cases next.symm.trans next'
          obtain ⟨rfl, rfl, rfl⟩ := ih tail'
          exact ⟨rfl, rfl, rfl⟩
      | error next' _ => cases next.symm.trans next'
  | error next _ ih =>
      cases h' with
      | last next' _ => cases next.symm.trans next'
      | token next' _ _ => cases next.symm.trans next'
      | error next' tail' =>
          cases next.symm.trans next'
          obtain ⟨rfl, rfl, rfl⟩ := ih tail'
          exact ⟨rfl, rfl, rfl⟩

/-- Reading to the end of the input by the first of its readings. -/
theorem tokenize_of_next {after : Cursor} {t : Token} (next : c.next = (.ok t, after)) :
    c.tokenize = if t.kind = .endOfInput then (.ok [t], after)
      else (after.tokenize.1.map (t :: ·), after.tokenize.2) := by
  rw [tokenize]
  split
  next e after' heq => cases next.symm.trans heq
  next t' after' heq =>
    cases next.symm.trans heq
    split
    · rfl
    · split
      next e last hlast => rw [hlast]; rfl
      next tokens last hlast => rw [hlast]; rfl

/-- Reading to the end of the input where the first reading is an error. -/
theorem tokenize_of_next_error {after : Cursor} {e : ScanError}
    (next : c.next = (.error e, after)) : c.tokenize = (.error e, after) := by
  rw [tokenize]
  split
  next e' after' heq =>
    cases next.symm.trans heq
    rfl
  next t after' heq => cases next.symm.trans heq

/-- Reading to the end of the input is the strict loop: it gives the list of what the
loop yields, or the error that ends it. -/
theorem Yields.tokenize_eq {tokens : List Token} {ending : Except ScanError Unit} {last : Cursor}
    (h : Yields c tokens ending last) : c.tokenize = (ending.map fun _ => tokens, last) := by
  induction h with
  | last next atEnd =>
      rw [tokenize_of_next next, if_pos atEnd]
      rfl
  | @token _ _ _ _ _ ending next goesOn _ ih =>
      rw [tokenize_of_next next, if_neg goesOn, ih]
      cases ending <;> rfl
  | error next =>
      rw [tokenize_of_next_error next]
      rfl

/-! ### The loops take the items -/

/-- One reading takes the first of the items that are left, and leaves the others. -/
structure TakesItem (source filename : Text) (c : Cursor) (i : Item) (more : List Item)
    (after : Cursor) : Prop where
  found : itemsFrom c.position c.rest = i :: more
  next : c.next = (i.event source filename, after)
  sound : Sound source filename after
  left : itemsFrom after.position after.rest = more
  forward : c.position < after.position
  within : after.position ≤ source.length
  /-- An item is not the end of the input. -/
  goesOn : ∀ t, i.token? = some t → t.kind ≠ .endOfInput

/-- One reading takes an item, or nothing is left and it gives the end of the input. -/
theorem Sound.next_cases (h : Sound source filename c) (hle : c.position ≤ source.length) :
    (∃ i more after, TakesItem source filename c i more after) ∨
    (itemsFrom c.position c.rest = [] ∧ c.next.1 = .ok (endToken source) ∧
      Sound source filename c.next.2 ∧ c.next.2.position = source.length) := by
  have hlength : c.position + c.rest.length = source.length := by
    rw [h.rest_eq, List.length_drop]
    omega
  rcases blank_or_front c.rest with hblank | ⟨gap, lexeme, rest, o, hrest, hgap, hfront⟩
  · obtain ⟨hevent, hsound, hposition⟩ := h.next_of_blank hblank
    rw [hlength] at hevent hposition
    exact Or.inr ⟨itemsFrom_of_blank hblank, hevent, hsound, hposition⟩
  · obtain ⟨hevent, hsound, hposition⟩ := h.next_of_front hrest hgap hfront
    have hleft : c.next.2.rest = rest := by
      rw [hsound.rest_eq, hposition, Nat.add_assoc, ← List.drop_drop, ← h.rest_eq, hrest,
        ← List.length_append, ← List.append_assoc, List.drop_left]
    obtain ⟨d, tail, hlexeme, -⟩ := hfront.exists_head
    have hpos : 0 < lexeme.length := by
      rw [hlexeme]
      exact Nat.succ_pos _
    let i : Item := ⟨c.position + gap.length, lexeme, o⟩
    let more : List Item := itemsFrom (c.position + gap.length + lexeme.length) rest
    refine Or.inl ⟨i, more, c.next.2, ?found, ?next, hsound, ?left, ?forward, ?within, ?goesOn⟩
    case found =>
      rw [hrest]
      exact itemsFrom_of_front hgap hfront
    case next => rw [← hevent]
    case left => rw [hleft, hposition]
    case forward => omega
    case within =>
      rw [hrest, List.length_append, List.length_append] at hlength
      omega
    case goesOn =>
      intro t ht
      cases o with
      | fault kind => exact nomatch ht
      | token kind value =>
          cases ht
          exact hfront.spells.kind_ne_endOfInput

/-- The collecting loop ends, and keeps the tokens and errors of the items that are left. -/
theorem Sound.exists_collects {found : List Item} (h : Sound source filename c)
    (hle : c.position ≤ source.length) (hfound : itemsFrom c.position c.rest = found) :
    ∃ last, Collects c (found.filterMap Item.token? ++ [endToken source])
      (found.filterMap (Item.error? source filename (LineIndex.ofText source))) last := by
  -- On the items that are left: each round takes the first of them.
  induction found generalizing c with
  | nil =>
      rcases h.next_cases hle with ⟨i, more, after, htakes⟩ | ⟨-, hnext, -⟩
      · rw [htakes.found] at hfound
        exact nomatch hfound
      · exact ⟨c.next.2, .last (Prod.ext hnext rfl) rfl⟩
  | cons i more ih =>
      rcases h.next_cases hle with ⟨i', more', after, htakes⟩ | ⟨hnone, -⟩
      · rw [htakes.found] at hfound
        obtain ⟨rfl, rfl⟩ := List.cons.inj hfound
        obtain ⟨last, htail⟩ := ih htakes.sound htakes.within htakes.left
        have hnext := htakes.next
        refine ⟨last, ?_⟩
        rcases i'.event_cases source filename with
          ⟨t, htoken, herror, hevent⟩ | ⟨e, htoken, herror, hevent⟩
        · rw [hevent] at hnext
          rw [List.filterMap_cons_some htoken, List.filterMap_cons_none herror]
          exact .token hnext (htakes.goesOn t htoken) htail
        · rw [hevent] at hnext
          rw [List.filterMap_cons_none htoken, List.filterMap_cons_some herror]
          exact .error hnext htail
      · rw [hnone] at hfound
        exact nomatch hfound

/-- The strict loop yields the tokens of the items in front that are no errors, and goes
on from where they are left. -/
theorem Sound.yields_append {before more : List Item} (h : Sound source filename c)
    (hle : c.position ≤ source.length) (hfound : itemsFrom c.position c.rest = before ++ more)
    (hbefore : ∀ i ∈ before, i.error? source filename (LineIndex.ofText source) = none) :
    ∃ d, Sound source filename d ∧ d.position ≤ source.length ∧
      itemsFrom d.position d.rest = more ∧
      ∀ tokens ending last, Yields d tokens ending last →
        Yields c (before.filterMap Item.token? ++ tokens) ending last := by
  induction before generalizing c with
  | nil => exact ⟨c, h, hle, hfound, fun _ _ _ hyields => hyields⟩
  | cons i before ih =>
      obtain ⟨hi, hothers⟩ := List.forall_mem_cons.mp hbefore
      rcases h.next_cases hle with ⟨i', more', after, htakes⟩ | ⟨hnone, -⟩
      · rw [htakes.found] at hfound
        obtain ⟨rfl, rfl⟩ := List.cons.inj hfound
        obtain ⟨d, hsound, hwithin, hleft, hyields⟩ :=
          ih htakes.sound htakes.within htakes.left hothers
        refine ⟨d, hsound, hwithin, hleft, fun tokens ending last htail => ?_⟩
        have hnext := htakes.next
        rcases i'.event_cases source filename with ⟨t, htoken, -, hevent⟩ | ⟨e, -, herror, -⟩
        · rw [hevent] at hnext
          rw [List.filterMap_cons_some htoken]
          exact .token hnext (htakes.goesOn t htoken) (hyields tokens ending last htail)
        · exact nomatch hi.symm.trans herror
      · rw [hnone] at hfound
        exact nomatch hfound

/-- The strict loop over items without an error yields all their tokens and the end of
the input. -/
theorem Sound.exists_yields_ok {found : List Item} (h : Sound source filename c)
    (hle : c.position ≤ source.length) (hfound : itemsFrom c.position c.rest = found)
    (hnone : ∀ i ∈ found, i.error? source filename (LineIndex.ofText source) = none) :
    ∃ last, Yields c (found.filterMap Item.token? ++ [endToken source]) (.ok ()) last := by
  rw [← List.append_nil found] at hfound
  obtain ⟨d, hsound, hwithin, hleft, hyields⟩ := h.yields_append hle hfound hnone
  rcases hsound.next_cases hwithin with ⟨i, more, after, htakes⟩ | ⟨-, hnext, -⟩
  · rw [htakes.found] at hleft
    exact nomatch hleft
  · exact ⟨d.next.2, hyields _ _ _ (.last (Prod.ext hnext rfl) rfl)⟩

/-- The strict loop over items with an error yields the tokens in front of the first
error, and ends with that. -/
theorem Sound.exists_yields_error {before later : List Item} {i : Item} {e : ScanError}
    (h : Sound source filename c) (hle : c.position ≤ source.length)
    (hfound : itemsFrom c.position c.rest = before ++ i :: later)
    (hbefore : ∀ j ∈ before, j.error? source filename (LineIndex.ofText source) = none)
    (hi : i.error? source filename (LineIndex.ofText source) = some e) :
    ∃ last, Yields c (before.filterMap Item.token?) (.error e) last := by
  obtain ⟨d, hsound, hwithin, hleft, hyields⟩ := h.yields_append hle hfound hbefore
  rcases hsound.next_cases hwithin with ⟨i', more, after, htakes⟩ | ⟨hnone, -⟩
  · rw [htakes.found] at hleft
    obtain ⟨rfl, rfl⟩ := List.cons.inj hleft
    have hnext := htakes.next
    rcases i'.event_cases source filename with ⟨t, -, herror, -⟩ | ⟨e', -, herror, hevent⟩
    · exact nomatch herror.symm.trans hi
    · obtain rfl := Option.some.inj (herror.symm.trans hi)
      rw [hevent] at hnext
      have hcourse := hyields _ _ _ (.error hnext)
      rw [List.append_nil] at hcourse
      exact ⟨after, hcourse⟩
  · rw [hnone] at hleft
    exact nomatch hleft

end Cursor

/-! ### The two readings side by side -/

/-- The strict loop over a source yields all tokens, where there is no error. Else it
yields the tokens that start before the first error, and ends with that. -/
theorem strict_course (source filename : Text) :
    (∃ last, (tokenizeAll source filename).2 = [] ∧
      Cursor.Yields (.start source filename) (tokenizeAll source filename).1 (.ok ()) last) ∨
    ∃ e later last, (tokenizeAll source filename).2 = e :: later ∧
      e.source = source ∧ e.filename = filename ∧
      Cursor.Yields (.start source filename)
        ((tokenizeAll source filename).1.filter fun t => t.offset < e.position.offset)
        (.error e) last := by
  have hsound := Cursor.Sound.start source filename
  have hstart : (Cursor.start source filename).position ≤ source.length := Nat.zero_le _
  cases herrors : (tokenizeAll source filename).2 with
  | nil =>
      have hnone := List.filterMap_eq_nil_iff.mp herrors
      obtain ⟨last, hyields⟩ := hsound.exists_yields_ok hstart rfl hnone
      exact Or.inl ⟨last, rfl, hyields⟩
  | cons e more =>
      obtain ⟨before, i, later, hfound, hbefore, hi, -⟩ := List.filterMap_eq_cons_iff.mp herrors
      obtain ⟨last, hyields⟩ := hsound.exists_yields_error hstart hfound hbefore hi
      rcases i.event_cases source filename with ⟨t, -, hnone, -⟩ | ⟨e', htoken, hsome, -⟩
      · exact nomatch hnone.symm.trans hi
      · obtain ⟨hposition, -, hsource, hfilename⟩ := Item.error?_eq_some hi
        refine Or.inr ⟨e, more, last, rfl, hsource, hfilename, ?_⟩
        have hoffset : e.position.offset = i.start := by
          rw [hposition]
          rfl
        rw [hoffset, filter_offset_lt filename hfound htoken]
        exact hyields

/-- The strict loop ends. What it yields is what the strict reading gives, unless it ends
with an error, which is given instead. -/
theorem strict_ends (source filename : Text) :
    ∃ read ending last, Cursor.Yields (.start source filename) read ending last ∧
      tokenize source filename = ending.map (fun _ => read) := by
  have htokenize := tokenize_eq source filename
  rcases strict_course source filename with
    ⟨last, hnone, hyields⟩ | ⟨e, later, last, herrors, -, -, hyields⟩
  · rw [hnone] at htokenize
    exact ⟨_, _, last, hyields, htokenize⟩
  · rw [herrors] at htokenize
    exact ⟨_, _, last, hyields, htokenize⟩

/-- The strict and the collecting reading of a source give the same, as far as the strict
one goes. -/
structure ModesAgree (source filename : Text) : Prop where
  /-- The collecting loop ends, with these tokens and errors and no others. -/
  collecting : ∃ last, ∀ tokens errors after,
    Cursor.Collects (.start source filename) tokens errors after ↔
      (tokens, errors) = tokenizeAll source filename ∧ after = last
  /-- The strict loop ends, in one way, and gives the list of what it yields, or the error
  that ends it. -/
  strict : ∃ read ending last,
    (∀ tokens ending' after, Cursor.Yields (.start source filename) tokens ending' after ↔
      tokens = read ∧ ending' = ending ∧ after = last) ∧
    tokenize source filename = ending.map (fun _ => read) ∧
    (Cursor.start source filename).tokenize = (tokenize source filename, last)
  /-- There is a list if and only if there are no errors. -/
  list_iff : (∃ tokens, tokenize source filename = .ok tokens) ↔
    (tokenizeAll source filename).2 = []
  /-- The list is then that of all tokens. -/
  list_eq : ∀ tokens, tokenize source filename = .ok tokens →
    tokens = (tokenizeAll source filename).1
  /-- Else the error is the first of all errors. -/
  error_eq : ∀ e, tokenize source filename = .error e →
    (tokenizeAll source filename).2.head? = some e ∧ e.source = source ∧ e.filename = filename
  /-- What was read before the error is all tokens that start before it. -/
  read_eq : ∀ tokens e after, Cursor.Yields (.start source filename) tokens (.error e) after →
    tokens = (tokenizeAll source filename).1.filter fun t => t.offset < e.position.offset

/-- The two readings of every source agree. -/
theorem modes_agree (source filename : Text) : ModesAgree source filename := by
  have hsound := Cursor.Sound.start source filename
  have htokenize := tokenize_eq source filename
  have hcourse := strict_course source filename
  constructor
  case collecting =>
    obtain ⟨last, hcollects⟩ := hsound.exists_collects (Nat.zero_le _) rfl
    refine ⟨last, fun tokens errors after => ⟨fun h => ?_, ?_⟩⟩
    · obtain ⟨rfl, rfl, rfl⟩ := hcollects.unique h
      exact ⟨rfl, rfl⟩
    · rintro ⟨heq, rfl⟩
      obtain ⟨rfl, rfl⟩ := Prod.mk.inj heq
      exact hcollects
  case strict =>
    obtain ⟨read, ending, last, hyields, heq⟩ := strict_ends source filename
    refine ⟨read, ending, last, fun tokens ending' after => ⟨fun h => ?_, ?_⟩, heq, ?_⟩
    · obtain ⟨rfl, rfl, rfl⟩ := hyields.unique h
      exact ⟨rfl, rfl, rfl⟩
    · rintro ⟨rfl, rfl, rfl⟩
      exact hyields
    · rw [hyields.tokenize_eq, heq]
  case list_iff =>
    rw [htokenize]
    cases (tokenizeAll source filename).2 <;> simp
  case list_eq =>
    intro tokens htokens
    rw [htokenize] at htokens
    cases herrors : (tokenizeAll source filename).2 with
    | nil =>
        rw [herrors] at htokens
        exact (Except.ok.inj htokens).symm
    | cons e later =>
        rw [herrors] at htokens
        exact nomatch htokens
  case error_eq =>
    intro e he
    rcases hcourse with ⟨last, hnone, -⟩ | ⟨e', later, last, herrors, hsource, hfilename, -⟩
    · rw [htokenize, hnone] at he
      exact nomatch he
    · rw [htokenize, herrors] at he
      obtain rfl := Except.error.inj he
      rw [herrors]
      exact ⟨rfl, hsource, hfilename⟩
  case read_eq =>
    intro tokens e after h
    rcases hcourse with ⟨last, -, hyields⟩ | ⟨e', later, last, -, -, -, hyields⟩
    · exact nomatch (hyields.unique h).2.1
    · obtain ⟨rfl, hending, -⟩ := hyields.unique h
      rw [Except.error.inj hending]

end MonkeyScan
