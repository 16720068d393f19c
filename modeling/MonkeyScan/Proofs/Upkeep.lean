import MonkeyScan.Proofs.Registers

/-!
# `MonkeyScan.Proofs.Upkeep`: what every operation keeps

A scanner with registers may be asked for whole tokens and for each of the movements that
they are made of, in any order, wherever it stands and past the end too. An error is
the answer of the operation it arises in and does not end the session. After each operation
the registers fit: the next offset is the one behind the offset of the character that is
read, and that character is the one that the source has there.

`Registers.Fit` says so of one moment, and `Registers.Kept` of a whole session. A session
also never goes back, and the line index is there from the first error on.

* `Sound.keeps_perform`: what one operation keeps of a cursor.
* `Sound.kept_session`: so every session keeps it of the registers.
* `Registers.session_kept`: this holds from the start of every source. Whole tokens never
  lead past the end.
-/

set_option autoImplicit false

namespace MonkeyScan

open Scan

/-- Whether an answer is an error. -/
def Answer.isError : Answer → Bool
  | .error _ => true
  | _ => false

namespace Registers

/-- The registers fit the source and one another, and the line index is there if an error
has been raised. -/
structure Fit (source filename : Text) (raised : Bool) (r : Registers) : Prop where
  source_eq : r.source = source
  filename_eq : r.filename = filename
  next_eq : r.nextPosition = r.position + 1
  /-- Past the end no character is read. -/
  current_eq : r.current = source[r.position]?
  index_eq : r.index? = if raised then some (LineIndex.ofText source) else none

/-- The answers of a session, and the registers after each, from a position on: the
registers fit each time, and no operation goes back. -/
inductive Kept (source filename : Text) : Bool → Nat → List (Answer × Registers) → Prop where
  | nil {raised : Bool} {position : Nat} : Kept source filename raised position []
  | cons {raised : Bool} {position : Nat} {answer : Answer} {r : Registers}
      {more : List (Answer × Registers)}
      (fit : r.Fit source filename (raised || answer.isError)) (forward : position ≤ r.position)
      (tail : Kept source filename (raised || answer.isError) r.position more) :
      Kept source filename raised position ((answer, r) :: more)

end Registers

namespace Cursor

/-- An operation on a cursor has kept it sound and has not gone back. The line index is
made if the operation has failed, and is left alone otherwise. -/
structure Keeps (source filename : Text) (c : Cursor) (failed : Bool) (after : Cursor) :
    Prop where
  sound : Sound source filename after
  forward : c.position ≤ after.position
  index_eq : after.index? = if failed then some (LineIndex.ofText source) else c.index?

variable {source filename : Text} {c d after : Cursor} {failed : Bool}

/-- What is kept on the way is kept in the end. -/
theorem Keeps.trans (h : Keeps source filename c false d)
    (h' : Keeps source filename d failed after) : Keeps source filename c failed after where
  sound := h'.sound
  forward := Nat.le_trans h.forward h'.forward
  index_eq := by
    rw [h'.index_eq, h.index_eq]
    rfl

namespace Sound

/-- Standing still keeps all. -/
theorem keeps_self (h : Sound source filename c) : Keeps source filename c false c :=
  ⟨h, Nat.le_refl _, rfl⟩

/-- Moving on. -/
theorem keeps_advance (h : Sound source filename c) (n : Nat) :
    Keeps source filename c false (c.advance n) :=
  ⟨h.advance n, Nat.le_add_right _ _, rfl⟩

/-- Refusing what was moved over. -/
theorem keeps_refuse (h : Sound source filename c) (kind : FaultKind) (n : Nat) :
    Keeps source filename c true (c.refuse kind n).2 where
  sound := h.refuse kind n
  forward := Nat.le_add_right _ _
  index_eq := by
    show some _ = some _
    rw [h.getD_index]

/-- Reading an integer, from whatever character. -/
theorem keeps_readInteger (h : Sound source filename c) :
    Keeps source filename c (!c.readInteger.1.isOk) c.readInteger.2 := by
  rw [readInteger]
  rcases Scan.readInteger c.rest with ⟨_ | n, width⟩
  · exact h.keeps_refuse .malformedInteger _
  · exact h.keeps_advance _

/-- Reading a string, from whatever character. -/
theorem keeps_readString (h : Sound source filename c) :
    Keeps source filename c (!c.readString.1.isOk) c.readString.2 := by
  rw [readString]
  rcases Scan.readString c.rest with ⟨_ | content, width⟩
  · exact h.keeps_refuse .unterminatedString _
  · exact h.keeps_advance _

/-- Taking a step. -/
theorem keeps_takeStep (h : Sound source filename c) (s : Step) :
    Keeps source filename c (!(c.takeStep s).1.isOk) (c.takeStep s).2 := by
  obtain ⟨outcome, width⟩ := s
  cases outcome with
  | token kind value => exact h.keeps_advance _
  | fault kind => exact h.keeps_refuse kind _

/-- Reading the next token or error. -/
theorem keeps_next (h : Sound source filename c) :
    Keeps source filename c (!c.next.1.isOk) c.next.2 :=
  (h.keeps_advance _).trans ((h.advance _).keeps_takeStep _)

/-- Reading a number of tokens. -/
theorem keeps_take (h : Sound source filename c) (n : Nat) :
    Keeps source filename c (!(c.take n).1.isOk) (c.take n).2 := by
  induction n generalizing c with
  | zero => exact h.keeps_self
  | succ n ih =>
      have hnext := h.keeps_next
      rw [take]
      split
      next e after heq =>
        rw [heq] at hnext
        exact hnext
      next t after heq =>
        rw [heq] at hnext
        split
        · exact hnext
        · have hlast := Keeps.trans hnext (ih hnext.sound)
          split
          next e last hrun =>
            rw [hrun] at hlast
            exact hlast
          next tokens last hrun =>
            rw [hrun] at hlast
            exact hlast

/-- Reading all tokens. -/
theorem keeps_tokenize {c : Cursor} (h : Sound source filename c) :
    Keeps source filename c (!c.tokenize.1.isOk) c.tokenize.2 := by
  have hnext := h.keeps_next
  rw [tokenize]
  split
  next e after heq =>
    rw [heq] at hnext
    exact hnext
  next t after heq =>
    rw [heq] at hnext
    split
    · exact hnext
    next hkind =>
      -- The run goes on from a token, behind which less is left.
      have hshorter := next_rest_lt heq hkind
      have hlast := Keeps.trans hnext (keeps_tokenize hnext.sound)
      split
      next e last hrun =>
        rw [hrun] at hlast
        exact hlast
      next tokens last hrun =>
        rw [hrun] at hlast
        exact hlast
termination_by c.rest.length

/-- Any operation. -/
theorem keeps_perform (h : Sound source filename c) (op : Operation) :
    Keeps source filename c (c.perform op).1.isError (c.perform op).2 := by
  have hanswer : ∀ {α : Type} (answer : α → Answer) (x : Except ScanError α),
      (∀ a, (answer a).isError = false) → (Answer.ofExcept answer x).isError = !x.isOk := by
    intro α answer x hplain
    cases x with
    | error e => rfl
    | ok a => exact hplain a
  cases op with
  | next =>
      have hkeeps := h.keeps_next
      rw [← hanswer .token c.next.1 fun _ => rfl] at hkeeps
      exact hkeeps
  | tokenize =>
      have hkeeps := h.keeps_tokenize
      rw [← hanswer .tokens c.tokenize.1 fun _ => rfl] at hkeeps
      exact hkeeps
  | take n =>
      have hkeeps := h.keeps_take n
      rw [← hanswer .tokens (c.take n).1 fun _ => rfl] at hkeeps
      exact hkeeps
  | peek => exact h.keeps_self
  | advance => exact h.keeps_advance _
  | skipBlanks => exact h.keeps_advance _
  | readWord => exact h.keeps_advance _
  | readInteger =>
      have hkeeps := h.keeps_readInteger
      rw [← hanswer .number c.readInteger.1 fun _ => rfl] at hkeeps
      exact hkeeps
  | readString =>
      have hkeeps := h.keeps_readString
      rw [← hanswer .text c.readString.1 fun _ => rfl] at hkeeps
      exact hkeeps

/-- The registers of a sound cursor fit. -/
theorem fit_registers {raised : Bool} (h : Sound source filename c)
    (hindex : c.index? = if raised then some (LineIndex.ofText source) else none) :
    c.registers.Fit source filename raised where
  source_eq := h.source_eq
  filename_eq := h.filename_eq
  next_eq := rfl
  current_eq := by
    show c.rest.head? = _
    rw [h.rest_eq, List.head?_drop]
    rfl
  index_eq := hindex

/-- Registers that start where a sound cursor stands are kept by every session, and keep
step with the cursor. -/
theorem kept_session {raised : Bool} (h : Sound source filename c)
    (hindex : c.index? = if raised then some (LineIndex.ofText source) else none)
    (ops : List Operation) :
    c.registers.session ops = (c.session ops).map (Prod.map id registers) ∧
      Registers.Kept source filename raised c.position (c.registers.session ops) := by
  induction ops generalizing c raised with
  | nil => exact ⟨rfl, .nil⟩
  | cons op more ih =>
      have hkeeps := h.keeps_perform op
      have hafter : (c.perform op).2.index?
          = if raised || (c.perform op).1.isError then some (LineIndex.ofText source)
            else none := by
        rw [hkeeps.index_eq, hindex]
        cases raised <;> cases (c.perform op).1.isError <;> rfl
      obtain ⟨hstep, hkept⟩ := ih hkeeps.sound hafter
      rw [Registers.session, h.registers_perform, session, List.map_cons]
      have hfit := hkeeps.sound.fit_registers hafter
      exact ⟨congrArg (_ :: ·) hstep, .cons hfit hkeeps.forward hkept⟩

end Sound

/-- Reading whole tokens leads to cursors that reading reaches. -/
theorem Reached.session (h : Reached source filename c) {ops : List Operation}
    (hops : ∀ op ∈ ops, op.readsTokens = true) :
    ∀ done ∈ c.session ops, Reached source filename done.2 := by
  induction ops generalizing c with
  | nil => exact fun done hdone => nomatch hdone
  | cons op more ih =>
      obtain ⟨hop, hmore⟩ := List.forall_mem_cons.mp hops
      have hafter := h.perform hop
      exact List.forall_mem_cons.mpr ⟨hafter, ih hafter hmore⟩

end Cursor

namespace Registers

/-- The registers at the start are those of the cursor there. -/
theorem start_eq_registers (source filename : Text) :
    start source filename = (Cursor.start source filename).registers := by
  have hfirst : source[0]? = source.head? := List.head?_eq_getElem?.symm
  rw [start, readChar, hfirst]
  rfl

/-- Whatever is asked of a scanner, its registers fit after each operation, and it never
goes back. Its answers are those of the cursor. If only whole tokens are asked for, it
never stands past the end. -/
theorem session_kept (source filename : Text) (ops : List Operation) :
    let states := (start source filename).session ops
    states = ((Cursor.start source filename).session ops).map (Prod.map id Cursor.registers) ∧
    (start source filename).Fit source filename false ∧
    Kept source filename false (start source filename).position states ∧
    ((∀ op ∈ ops, op.readsTokens = true) →
      ∀ done ∈ states, done.2.position ≤ source.length) := by
  have hsound := Cursor.Sound.start source filename
  have hindex : (Cursor.start source filename).index?
      = if false then some (LineIndex.ofText source) else none := rfl
  obtain ⟨hstep, hkept⟩ := hsound.kept_session hindex ops
  rw [start_eq_registers]
  refine ⟨hstep, hsound.fit_registers hindex, hkept, fun hops done hdone => ?_⟩
  rw [hstep, List.mem_map] at hdone
  obtain ⟨done', hdone', rfl⟩ := hdone
  exact (Cursor.Reached.start.session hops done' hdone').sound_and_position_le.2

/-- An iteration is ended by the error of a large integer, and the rest by that of an open
string. From then on the scanner stands at the end. -/
theorem session_kept_after_errors :
    let source := "a 99999999999 \"b".toList
    let ops : List Operation := [.next, .take 3, .tokenize, .next]
    let states := (start source []).session ops
    (∀ op ∈ ops, op.readsTokens = true) ∧
    (states.map fun done => (done.1.isError, done.2.position, done.2.current))
      = [(false, 1, some ' '), (true, 13, some ' '), (true, 16, none), (false, 16, none)] ∧
    Kept source [] false 0 states ∧ ∀ done ∈ states, done.2.position ≤ source.length := by
  intro source ops states
  have hops : ∀ op ∈ ops, op.readsTokens = true := by decide
  obtain ⟨-, -, hkept, hwithin⟩ := session_kept source [] ops
  exact ⟨hops, by decide +kernel, hkept, hwithin hops⟩

end Registers

end MonkeyScan
