import MonkeyScan.Proofs.Consumption
import MonkeyScan.Proofs.Modes
import MonkeyScan.Proofs.Walk

/-!
# `MonkeyScan.Proofs.Progress`: reading comes to an end

Every reading moves the cursor on, whether it gives a token or an error, until it gives
the end of the input. The cursor never leaves the source, so there are no more readings
than characters, and one for the end. Behind that the cursor stays where it is.

A single reading ends as well: its loops go on over characters of a class, and the end
of the input is in no class (`Cursor.walk_ends_iff`).

* `Sound.movesOn`: one reading moves on, or is at the end.
* `Sound.collects_bounded`: so the collecting loop has no more rounds than that.
* `next_of_rest_nil`, `session_of_rest_nil`: at the end nothing changes the cursor.
* `reading_ends`: all of this for every source.
-/

set_option autoImplicit false

namespace MonkeyScan

open Scan

namespace Cursor

/-- One reading gives the end of the input, or it moves the cursor on within the source. -/
inductive MovesOn (source : Text) (c : Cursor) : Prop where
  | atEnd (token : c.next.1 = .ok (endToken source)) (stands : c.next.2.position = source.length)
  | forward (goesOn : ∀ t, c.next.1 = .ok t → t.kind ≠ .endOfInput)
      (farther : c.position < c.next.2.position) (within : c.next.2.position ≤ source.length)

end Cursor

/-- Reading ends, in every way in which a source can be read. -/
structure ReadingEnds (source filename : Text) : Prop where
  /-- A reading ends. No loop in it takes more turns than characters are left, and one. -/
  readings : ∀ c, Cursor.Reached source filename c → ∀ turns, source.length - c.position < turns →
    c.walkNext turns (fun digits => some (decimalValue digits)) = some c.next
  /-- It moves the cursor on, unless it gives the end of the input. -/
  progress : ∀ c, Cursor.Reached source filename c → Cursor.MovesOn source c
  /-- Once it has given that, each reading does, and no operation moves the cursor. -/
  final : ∀ c t, Cursor.Reached source filename c → c.next.1 = .ok t → t.kind = .endOfInput →
    (∀ n, c.next.2.stream n = .ok (endToken source)) ∧
    ∀ ops : List Operation, (∀ op ∈ ops, op.readsTokens = true) →
      ∀ done ∈ c.next.2.session ops, done.2 = c.next.2
  /-- The collecting loop ends. -/
  collecting : ∃ last, Cursor.Collects (.start source filename) (tokenizeAll source filename).1
    (tokenizeAll source filename).2 last
  /-- The strict loop ends. -/
  strict : ∃ read ending last, Cursor.Yields (.start source filename) read ending last ∧
    tokenize source filename = ending.map (fun _ => read)
  /-- There are no more tokens and errors than characters, and the end of the input. -/
  bounded : ∃ before, (tokenizeAll source filename).1 = before ++ [endToken source] ∧
    (∀ t ∈ before, t.kind ≠ .endOfInput) ∧
    before.length + (tokenizeAll source filename).2.length ≤ source.length

namespace Cursor

variable {source filename : Text} {c : Cursor}

/-! ### Readings -/

/-- One reading moves on within the source, or is at the end. -/
theorem Sound.movesOn (h : Sound source filename c) (hle : c.position ≤ source.length) :
    MovesOn source c := by
  rcases h.next_cases hle with ⟨i, more, after, htakes⟩ | ⟨-, htoken, -, hposition⟩
  · have hnext := htakes.next
    refine .forward ?_ ?_ ?_
    · intro t ht
      rcases i.event_cases source filename with ⟨t', htoken, -, hevent⟩ | ⟨e, -, -, hevent⟩
      · rw [hnext, hevent] at ht
        exact htakes.goesOn t (htoken.trans (congrArg some (Except.ok.inj ht)))
      · rw [hnext, hevent] at ht
        exact nomatch ht
    · rw [hnext]
      exact htakes.forward
    · rw [hnext]
      exact htakes.within
  · exact .atEnd htoken hposition

/-- A reading that gives the end of the input does so at the end of the source. -/
theorem MovesOn.of_endOfInput {t : Token} (h : MovesOn source c) (ht : c.next.1 = .ok t)
    (hkind : t.kind = .endOfInput) : t = endToken source ∧ c.next.2.position = source.length := by
  cases h with
  | atEnd token stands => exact ⟨Except.ok.inj (ht.symm.trans token), stands⟩
  | forward goesOn _ _ => exact absurd hkind (goesOn t ht)

/-- A reading that gives anything else moves on, and reading can go on from there. -/
theorem Sound.next_forward {x : Except ScanError Token} {after : Cursor}
    (h : Sound source filename c) (hle : c.position ≤ source.length) (next : c.next = (x, after))
    (hother : ∀ t, x = .ok t → t.kind ≠ .endOfInput) :
    Sound source filename after ∧ c.position < after.position ∧
      after.position ≤ source.length := by
  have hsound := h.next
  have hmoves := h.movesOn hle
  rw [next] at hsound
  cases hmoves with
  | atEnd token _ =>
      rw [next] at token
      exact absurd rfl (hother _ token)
  | forward _ farther within =>
      rw [next] at farther within
      exact ⟨hsound, farther, within⟩

/-! ### The collecting loop -/

/-- The collecting loop keeps the end of the input last, and no more tokens and errors
before it than there are characters from where it starts. -/
theorem Sound.collects_bounded {tokens : List Token} {errors : List ScanError} {last : Cursor}
    (h : Sound source filename c) (hle : c.position ≤ source.length)
    (hcollects : Collects c tokens errors last) :
    ∃ before, tokens = before ++ [endToken source] ∧ (∀ t ∈ before, t.kind ≠ .endOfInput) ∧
      c.position + (before.length + errors.length) ≤ source.length := by
  -- On the rounds of the loop: each takes the cursor one character further at least.
  induction hcollects with
  | @last c after t next atEnd =>
      obtain ⟨rfl, -⟩ := (h.movesOn hle).of_endOfInput (congrArg Prod.fst next) atEnd
      exact ⟨[], rfl, by simp, by simpa using hle⟩
  | @token c after last t tokens errors next goesOn _ ih =>
      obtain ⟨hsound, hfarther, hwithin⟩ := h.next_forward hle next fun t' ht' =>
        Except.ok.inj ht' ▸ goesOn
      obtain ⟨before, rfl, hbefore, hcount⟩ := ih hsound hwithin
      refine ⟨t :: before, rfl, List.forall_mem_cons.mpr ⟨goesOn, hbefore⟩, ?_⟩
      simp only [List.length_cons]
      omega
  | @error c after last e tokens errors next _ ih =>
      obtain ⟨hsound, hfarther, hwithin⟩ := h.next_forward hle next fun _ ht' => nomatch ht'
      obtain ⟨before, rfl, hbefore, hcount⟩ := ih hsound hwithin
      refine ⟨before, rfl, hbefore, ?_⟩
      simp only [List.length_cons]
      omega

/-! ### At the end -/

/-- Where nothing is left, a reading gives the end of the input and keeps the cursor. -/
theorem next_of_rest_nil (h : c.rest = []) :
    c.next = (.ok ⟨.endOfInput, none, c.position⟩, c) := by
  have hskip : c.skipBlanks = c := by
    rw [skipBlanks, h, List.takeWhile_nil, List.length_nil, advance_zero]
  rw [next_eq_takeStep, hskip, h]
  rfl

/-- So does any number of readings. -/
theorem after_of_rest_nil (h : c.rest = []) (n : Nat) : c.after n = c := by
  induction n with
  | zero => rfl
  | succ n ih => rw [after_succ, next_of_rest_nil h, ih]

/-- So does every session. -/
theorem session_of_rest_nil (h : c.rest = []) {ops : List Operation}
    (hops : ∀ op ∈ ops, op.readsTokens = true) : ∀ done ∈ c.session ops, done.2 = c := by
  induction ops with
  | nil => exact fun done hdone => absurd hdone List.not_mem_nil
  | cons op ops ih =>
      obtain ⟨hop, hmore⟩ := List.forall_mem_cons.mp hops
      have hkept : (c.perform op).2 = c := by
        obtain ⟨n, -, hafter, -⟩ := perform_gives hop c
        rw [hafter, after_of_rest_nil h]
      intro done hdone
      rcases List.mem_cons.mp hdone with rfl | hlater
      · exact hkept
      · rw [hkept] at hlater
        exact ih hmore done hlater

end Cursor

/-! ### A whole source -/

/-- Reading a source ends, one token at a time or as a whole. -/
theorem reading_ends (source filename : Text) : ReadingEnds source filename := by
  have hsound := Cursor.Sound.start source filename
  obtain ⟨last, hcollects⟩ := hsound.exists_collects (Nat.zero_le _) rfl
  have hmoves : ∀ c, Cursor.Reached source filename c → Cursor.MovesOn source c := by
    intro c hc
    obtain ⟨hsound, hle⟩ := hc.sound_and_position_le
    exact hsound.movesOn hle
  constructor
  case readings =>
    intro c hc turns hturns
    obtain ⟨hsound, -⟩ := hc.sound_and_position_le
    refine Cursor.walkNext_eq (fun _ _ _ _ => rfl) ?_
    rw [hsound.rest_eq, List.length_drop]
    exact hturns
  case progress => exact hmoves
  case final =>
    intro c t hc ht hkind
    obtain ⟨-, hposition⟩ := (hmoves c hc).of_endOfInput ht hkind
    have hrest : c.next.2.rest = [] := by
      rw [hc.sound_and_position_le.1.next.rest_eq, hposition, List.drop_length]
    constructor
    · intro n
      rw [Cursor.stream, Cursor.after_of_rest_nil hrest, Cursor.next_of_rest_nil hrest, hposition]
      rfl
    · exact fun ops hops => Cursor.session_of_rest_nil hrest hops
  case collecting => exact ⟨last, hcollects⟩
  case strict => exact strict_ends source filename
  case bounded =>
    obtain ⟨before, htokens, hbefore, hcount⟩ := hsound.collects_bounded (Nat.zero_le _) hcollects
    refine ⟨before, htokens, hbefore, ?_⟩
    rw [← Nat.zero_add (before.length + _)]
    exact hcount

/-- Behind two errors, of a large integer and of an open string, the end of the input is
read in one turn of each loop, and again and again. -/
theorem reading_ends_behind_errors :
    let source := "99999999999 \"ab".toList
    let c := (((Cursor.start source []).perform .next).2.perform .next).2
    Cursor.Reached source [] c ∧ c.position = 15 ∧ c.next.1 = .ok ⟨.endOfInput, none, 15⟩ ∧
      c.walkNext 1 (fun digits => some (decimalValue digits)) = some c.next ∧
      ∀ n, c.next.2.stream n = .ok ⟨.endOfInput, none, 15⟩ := by
  intro source c
  have hreached : Cursor.Reached source [] c := .perform (.perform .start rfl) rfl
  have hend : c.next.1 = .ok ⟨.endOfInput, none, 15⟩ := by decide +kernel
  have hends := reading_ends source []
  exact ⟨hreached, by decide +kernel, hend, hends.readings c hreached 1 (by decide +kernel),
    (hends.final c _ hreached hend rfl).1⟩

end MonkeyScan
