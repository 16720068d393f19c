import MonkeyScan.Cursor

/-!
# `MonkeyScan.Session`: a cursor under a sequence of operations

A session performs operations on one cursor, one after the other. An error
is the answer of the operation it arises in and does not end the session.
-/

set_option autoImplicit false

namespace MonkeyScan

/-- What can be asked of a cursor. -/
inductive Operation where
  | next
  | tokenize
  | take (n : Nat)
  | peek
  | advance
  | skipBlanks
  | readWord
  | readInteger
  | readString
  deriving DecidableEq, Repr

namespace Operation

/-- The operations that read whole tokens. -/
def readsTokens : Operation → Bool
  | next | tokenize | take _ => true
  | _ => false

end Operation

/-- What an operation gives. -/
inductive Answer where
  | token (t : Token)
  | tokens (ts : List Token)
  /-- A character, or none at the end of the input. -/
  | character (c : Option Char)
  | text (t : Text)
  | number (n : Nat)
  | done
  | error (e : ScanError)
  deriving DecidableEq, Repr

/-- The answer that a fallible operation gives. -/
def Answer.ofExcept {α : Type} (answer : α → Answer) : Except ScanError α → Answer
  | .ok a => answer a
  | .error e => .error e

namespace Cursor

/-- Performs one operation. -/
def perform (c : Cursor) : Operation → Answer × Cursor
  | .next => c.next.map (.ofExcept .token) id
  | .tokenize => c.tokenize.map (.ofExcept .tokens) id
  | .take n => (c.take n).map (.ofExcept .tokens) id
  | .peek => (.character c.peek, c)
  | .advance => (.done, c.advance 1)
  | .skipBlanks => (.done, c.skipBlanks)
  | .readWord => c.readWord.map .text id
  | .readInteger => c.readInteger.map (.ofExcept .number) id
  | .readString => c.readString.map (.ofExcept .text) id

/-- Performs operations in turn: each answer with the cursor after it. -/
def session (c : Cursor) : List Operation → List (Answer × Cursor)
  | [] => []
  | op :: more =>
    let done := c.perform op
    done :: done.2.session more

end Cursor

end MonkeyScan
