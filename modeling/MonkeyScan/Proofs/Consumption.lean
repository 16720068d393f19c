import MonkeyScan.Proofs.Stream

/-!
# `MonkeyScan.Proofs.Consumption`: operations share one stream of events

One cursor may be asked for single tokens, for all that is left, and for
iterations that are broken off, in any order, and an error ends none of it.
Each of these operations takes the next events of one stream, the one that
single readings from the start would give. `Gives` says which events an
operation takes and how it answers to them, and `Follows` that a session takes
the events of a stream one after the other: none is lost and none comes twice.

An iteration answers with a list only when it is over. `Cursor.handed` is what
it hands over on the way.

* `tokenize_reads`, `take_reads`: the two loops are repeated readings.
* `perform_gives`: so every operation takes what it reads and leaves the rest.
* `session_follows`: so a session follows the stream of its cursor.
* `session_follows_stream`: this holds from the start of every source, with
  the line index kept or forgotten at any point.
-/

set_option autoImplicit false

namespace MonkeyScan

open Scan

/-! ### What operations take of a stream -/

namespace Event

/-- Whether an event ends a loop of readings: the end of the input does, and an
error. -/
def stops : Event → Bool
  | .ok t => t.kind == .endOfInput
  | .error _ => true

/-- The tokens of some events, or the first error among them. -/
def gathered : List Event → Except ScanError (List Token)
  | [] => .ok []
  | .ok t :: more => (gathered more).map (t :: ·)
  | .error e :: _ => .error e

/-- An error that is gathered is one of the events. -/
theorem mem_of_gathered_error {es : List Event} {e : ScanError} (h : gathered es = .error e) :
    .error e ∈ es := by
  induction es with
  | nil => exact nomatch h
  | cons x more ih =>
      cases x with
      | error e' =>
          rw [Except.error.inj h]
          exact List.mem_cons_self
      | ok t =>
          refine List.mem_cons_of_mem _ (ih ?_)
          cases hmore : gathered more with
          | error e' =>
              simp only [gathered, hmore, Except.map] at h
              rw [Except.error.inj h]
          | ok tokens =>
              simp only [gathered, hmore, Except.map] at h
              exact nomatch h

end Event

/-- Events of which the last, and only the last, ends a loop. -/
inductive UpToStop : List Event → Prop where
  | last {x : Event} (stops : x.stops = true) : UpToStop [x]
  | more {x : Event} {es : List Event} (goesOn : x.stops = false) (tail : UpToStop es) :
      UpToStop (x :: es)

/-- A number of events, or fewer of which the last ends a loop. Only the last one
may do so. -/
inductive AtMost : Nat → List Event → Prop where
  | enough : AtMost 0 []
  | last {n : Nat} {x : Event} (stops : x.stops = true) : AtMost (n + 1) [x]
  | more {n : Nat} {x : Event} {es : List Event} (goesOn : x.stops = false)
      (tail : AtMost n es) : AtMost (n + 1) (x :: es)

/-- The events that an operation takes, and its answer to them. -/
inductive Gives : Operation → List Event → Answer → Prop where
  | next (x : Event) : Gives .next [x] (.ofExcept .token x)
  | tokenize {es : List Event} (taken : UpToStop es) :
      Gives .tokenize es (.ofExcept .tokens (Event.gathered es))
  | take {n : Nat} {es : List Event} (taken : AtMost n es) :
      Gives (.take n) es (.ofExcept .tokens (Event.gathered es))

/-- An error that an operation answers with is one of the events that it takes. -/
theorem Gives.mem_of_error {op : Operation} {es : List Event} {e : ScanError}
    (h : Gives op es (.error e)) : .error e ∈ es := by
  generalize hanswer : Answer.error e = answer at h
  cases h with
  | next x =>
      cases x with
      | ok t => exact Answer.noConfusion hanswer
      | error e' =>
          rw [Answer.error.inj hanswer]
          exact List.mem_cons_self
  | @tokenize es _ | @take _ es _ =>
      refine Event.mem_of_gathered_error ?_
      cases hes : Event.gathered es with
      | ok tokens =>
          rw [hes] at hanswer
          exact Answer.noConfusion hanswer
      | error e' =>
          rw [hes] at hanswer
          rw [Answer.error.inj hanswer]

namespace Cursor

/-- What an iteration of at most `n` tokens hands over one by one: tokens, and
the error that ends it if there is one. -/
def handed (c : Cursor) : Nat → List Event
  | 0 => []
  | n + 1 =>
    match c.next with
    | (.error e, _) => [.error e]
    | (.ok t, after) => if t.kind = .endOfInput then [.ok t] else .ok t :: after.handed n

/-- Operations on a cursor, with the answers and the cursors after them, take
the events of a stream from the `n`-th on, one after the other. -/
inductive Follows (stream : Nat → Event) :
    Nat → Cursor → List Operation → List (Answer × Cursor) → Prop where
  | nil {n : Nat} {c : Cursor} : Follows stream n c [] []
  | cons {n : Nat} {c after : Cursor} {op : Operation} {answer : Answer} {es : List Event}
      {ops : List Operation} {done : List (Answer × Cursor)}
      (consecutive : es = (List.range' n es.length).map stream)
      (gives : Gives op es answer)
      (handed : ∀ k, op = .take k → c.handed k = es)
      /- The rest of the stream is still to come, whether the line index is kept or not. -/
      (kept : ∀ j, after.stream j = stream (n + es.length + j))
      (forgotten : ∀ j, after.forget.stream j = stream (n + es.length + j))
      (tail : Follows stream (n + es.length) after ops done) :
      Follows stream n c (op :: ops) ((answer, after) :: done)

/-! ### The loops are repeated readings -/

/-- The first `n` events that reading on gives. -/
def reads (c : Cursor) : Nat → List Event
  | 0 => []
  | n + 1 => c.next.1 :: c.next.2.reads n

/-- There are as many events as readings. -/
@[simp] theorem length_reads (c : Cursor) (n : Nat) : (c.reads n).length = n := by
  induction n generalizing c with
  | zero => rfl
  | succ n ih => simp [reads, ih]

/-- The events that are read are those of the stream. -/
theorem reads_eq_map_stream (c : Cursor) (n : Nat) :
    c.reads n = (List.range n).map c.stream := by
  induction n generalizing c with
  | zero => rfl
  | succ n ih =>
      rw [reads, ih, List.range_succ_eq_map, List.map_cons, List.map_map]
      rfl

/-- The events that are read after `m` readings are those of the stream from the
`m`-th on. -/
theorem reads_after (c : Cursor) (m n : Nat) :
    (c.after m).reads n = (List.range' m n).map c.stream := by
  rw [reads_eq_map_stream, List.range'_eq_map_range, List.map_map]
  exact List.map_congr_left fun j _ => stream_after c m j

/-- What is read where the first event and the cursor behind it are known. -/
theorem reads_succ {c after : Cursor} {x : Event} (hnext : c.next = (x, after)) (n : Nat) :
    c.reads (n + 1) = x :: after.reads n ∧ c.after (n + 1) = after.after n := by
  rw [reads, after_succ, hnext]
  exact ⟨rfl, rfl⟩

/-- Reading to the end takes the events up to the first that ends it. -/
theorem tokenize_reads (c : Cursor) :
    ∃ n, UpToStop (c.reads n) ∧ c.tokenize = (Event.gathered (c.reads n), c.after n) := by
  rw [tokenize]
  split
  next e after heq =>
    obtain ⟨hreads, hafter⟩ := reads_succ heq 0
    exact ⟨1, hreads ▸ .last rfl, by rw [hreads, hafter]; rfl⟩
  next t after heq =>
    split
    next hkind =>
      obtain ⟨hreads, hafter⟩ := reads_succ heq 0
      exact ⟨1, hreads ▸ .last (beq_iff_eq.mpr hkind), by rw [hreads, hafter]; rfl⟩
    next hkind =>
      -- The run goes on behind a token, where less is left.
      have hshorter := next_rest_lt heq hkind
      obtain ⟨n, htaken, hrun⟩ := tokenize_reads after
      obtain ⟨hreads, hafter⟩ := reads_succ heq n
      refine ⟨n + 1, hreads ▸ .more (beq_eq_false_iff_ne.mpr hkind) htaken, ?_⟩
      rw [hrun, hreads, hafter, Event.gathered]
      cases Event.gathered (after.reads n) <;> rfl
termination_by c.rest.length

/-- An iteration takes the events up to its bound, or up to the first that ends
it, and hands them over. -/
theorem take_reads (k : Nat) (c : Cursor) :
    ∃ n, AtMost k (c.reads n) ∧ c.take k = (Event.gathered (c.reads n), c.after n) ∧
      c.handed k = c.reads n := by
  induction k generalizing c with
  | zero => exact ⟨0, .enough, rfl, rfl⟩
  | succ k ih =>
      rw [take]
      split
      next e after heq =>
        obtain ⟨hreads, hafter⟩ := reads_succ heq 0
        refine ⟨1, hreads ▸ .last rfl, by rw [hreads, hafter]; rfl, ?_⟩
        simp only [handed, heq, reads]
      next t after heq =>
        split
        next hkind =>
          obtain ⟨hreads, hafter⟩ := reads_succ heq 0
          refine ⟨1, hreads ▸ .last (beq_iff_eq.mpr hkind), by rw [hreads, hafter]; rfl, ?_⟩
          simp only [handed, heq, hkind, reads, if_true]
        next hkind =>
          obtain ⟨n, htaken, hrun, hhanded⟩ := ih after
          obtain ⟨hreads, hafter⟩ := reads_succ heq n
          refine ⟨n + 1, hreads ▸ .more (beq_eq_false_iff_ne.mpr hkind) htaken, ?_, ?_⟩
          · rw [hrun, hreads, hafter, Event.gathered]
            cases Event.gathered (after.reads n) <;> rfl
          · simp only [handed, heq, hkind, hreads, hhanded, if_false]

/-- An operation on whole tokens takes a number of events and leaves the cursor
behind them. -/
theorem perform_gives {op : Operation} (reads : op.readsTokens = true) (c : Cursor) :
    ∃ n, Gives op (c.reads n) (c.perform op).1 ∧ (c.perform op).2 = c.after n ∧
      ∀ k, op = .take k → c.handed k = c.reads n := by
  cases op with
  | next => exact ⟨1, .next _, rfl, fun _ hop => nomatch hop⟩
  | tokenize =>
      obtain ⟨n, htaken, hrun⟩ := tokenize_reads c
      refine ⟨n, ?_, ?_, fun _ hop => nomatch hop⟩
      · show Gives _ _ (.ofExcept .tokens c.tokenize.1)
        rw [hrun]
        exact .tokenize htaken
      · show c.tokenize.2 = _
        rw [hrun]
  | take k =>
      obtain ⟨n, htaken, hrun, hhanded⟩ := take_reads k c
      refine ⟨n, ?_, ?_, ?_⟩
      · show Gives _ _ (.ofExcept .tokens (c.take k).1)
        rw [hrun]
        exact .take htaken
      · show (c.take k).2 = _
        rw [hrun]
      · intro k' hop
        rw [← Operation.take.inj hop]
        exact hhanded
  -- The other operations can stop within a token and are not used here.
  | _ => exact absurd reads (by decide)

/-! ### Sessions -/

variable {source filename : Text}

/-- A session follows the stream of a sound cursor from the place that has been
reached. -/
theorem session_follows {c : Cursor} (h : Sound source filename c) {ops : List Operation}
    (hops : ∀ op ∈ ops, op.readsTokens = true) (m : Nat) :
    Follows c.stream m (c.after m) ops ((c.after m).session ops) := by
  induction ops generalizing m with
  | nil => exact .nil
  | cons op ops ih =>
      obtain ⟨hop, hmore⟩ := List.forall_mem_cons.mp hops
      obtain ⟨n, hgives, hafter, hhanded⟩ := perform_gives hop (c.after m)
      -- The operation leaves the cursor `m + n` readings from the start.
      rw [← after_add] at hafter
      have hkept : ∀ j, ((c.after m).perform op).2.stream j = c.stream (m + n + j) := by
        intro j
        rw [hafter, stream_after]
      have hforgotten : ∀ j,
          ((c.after m).perform op).2.forget.stream j = c.stream (m + n + j) := by
        intro j
        rw [← hkept, hafter]
        exact (h.after _).forget.stream_congr (h.after _) rfl j
      have htail := ih hmore (m + n)
      rw [← hafter] at htail
      have hlength : m + ((c.after m).reads n).length = m + n := by rw [length_reads]
      refine .cons ?_ hgives hhanded ?_ ?_ ?_
      · rw [length_reads]
        exact reads_after c m n
      · rw [hlength]
        exact hkept
      · rw [hlength]
        exact hforgotten
      · rw [hlength]
        exact htail

/-- Whatever is asked of a cursor in a source, the answers are the events of the
one stream of that source, in order and without gaps. -/
theorem session_follows_stream (source filename : Text) {ops : List Operation}
    (hops : ∀ op ∈ ops, op.readsTokens = true) :
    Follows (start source filename).stream 0 (start source filename) ops
      ((start source filename).session ops) :=
  session_follows (Sound.start source filename) hops 0

/-- An iteration is ended by the error of a large integer, one name is read singly
after it, an open string ends the next iteration, and from then on the end of the
input is read. -/
theorem session_follows_stream_after_errors :
    let source := "let 99999999999 x \"ab".toList
    let ops : List Operation := [.take 5, .next, .take 2, .tokenize, .next]
    let integer : ScanError := ⟨.malformedInteger,
      "integer literal '99999999999' does not fit in a 32-bit signed integer".toList,
      ⟨1, 5, 4⟩, "99999999999".toList, source, []⟩
    let string : ScanError := ⟨.unterminatedString,
      "input ended before closing quote of string".toList, ⟨1, 19, 18⟩, "\"ab".toList, source, []⟩
    let last : Token := ⟨.endOfInput, none, 21⟩
    (∀ op ∈ ops, op.readsTokens = true) ∧
      ((start source []).session ops).map Prod.fst
        = [.error integer, .token ⟨.identifier, some (.text ['x']), 16⟩, .error string,
          .tokens [last], .token last] ∧
      Follows (start source []).stream 0 (start source []) ops
        ((start source []).session ops) := by
  intro source ops integer string last
  have hops : ∀ op ∈ ops, op.readsTokens = true := by decide
  exact ⟨hops, by decide +kernel, session_follows_stream source [] hops⟩

end Cursor

end MonkeyScan
