import MonkeyScan.Decimal.Binary64
import MonkeyScan.Text.Quoted
import MonkeyScan.Toml.Calendar
import MonkeyScan.Toml.Limit

/-!
# `MonkeyScan.Toml.Value`: configuration values

The values of a TOML document. A table keeps its fields in the order in which
the document brings them and has each key once.
-/

set_option autoImplicit false

namespace MonkeyScan.Toml

/-- A TOML value. A date with a time may have an offset from universal time,
in minutes. -/
inductive Value where
  | string (t : Text)
  | integer (n : Int)
  | float (x : Decimal.Binary64)
  | boolean (b : Bool)
  | date (d : Date)
  | time (t : ClockTime)
  | dateTime (d : Date) (t : ClockTime) (zone : Option Int)
  | array (items : List Value)
  | table (fields : List (Text × Value))
  deriving Repr

/-- The fields of a table. -/
abbrev Table := List (Text × Value)

namespace Value

/-- Whether a value holds others. -/
def isContainer : Value → Bool
  | array _ | table _ => true
  | _ => false

/-- An integer as it is shown. -/
def shownInteger (n : Int) : Except Limit Text :=
  if (Text.ofNat n.natAbs).length > maxDigits then .error .digitsToShow else .ok (Text.ofInt n)

mutual

/-- A value on one line, for messages. Each level of nesting takes one place
of the `room` there is. -/
def shownWithin : (room : Nat) → Value → Except Limit Text
  | 0, _ => .error .nestingToShow
  | _ + 1, string t => .ok (Text.quoted t)
  | _ + 1, integer n => shownInteger n
  | _ + 1, float x => .ok x.shown
  | _ + 1, boolean true => .ok "True".toList
  | _ + 1, boolean false => .ok "False".toList
  | _ + 1, date d => .ok d.shown
  | _ + 1, time t => .ok t.shown
  | _ + 1, dateTime d t zone => .ok (dateTimeShown d t zone)
  | _ + 1, array [] => .ok ['[', ']']
  | room + 1, array (item :: items) => do
    let first ← shownWithin room item
    let others ← shownItems room items
    return '[' :: first ++ others ++ [']']
  | _ + 1, table [] => .ok ['{', '}']
  | room + 1, table ((key, value) :: fields) => do
    let first ← shownWithin room value
    let others ← shownFields room fields
    return '{' :: Text.quoted key ++ [':', ' '] ++ first ++ others ++ ['}']

/-- The items after the first, each behind a comma. -/
def shownItems (room : Nat) : List Value → Except Limit Text
  | [] => .ok []
  | item :: items => do
    let first ← shownWithin room item
    let others ← shownItems room items
    return ',' :: ' ' :: first ++ others

/-- The fields after the first, each behind a comma. -/
def shownFields (room : Nat) : List (Text × Value) → Except Limit Text
  | [] => .ok []
  | (key, value) :: fields => do
    let first ← shownWithin room value
    let others ← shownFields room fields
    return ',' :: ' ' :: Text.quoted key ++ [':', ' '] ++ first ++ others

end

/-- A value on one line, for messages. -/
def shown (v : Value) : Except Limit Text :=
  shownWithin showingRoom v

end Value

end MonkeyScan.Toml
