import MonkeyScan.Text.Quoted
import MonkeyScan.Token.Kind

/-!
# `MonkeyScan.Token.Basic`: tokens

A token has a kind, for some kinds a value, and the offset at which it
starts. What a token says is its kind and value; where it stands is kept for
messages and does not distinguish it from another.
-/

set_option autoImplicit false

namespace MonkeyScan

/-- What a token carries: the number of an integer, or the text of a name, of
a string or of an illegal character. -/
inductive Value where
  | number (n : Int)
  | text (t : Text)
  deriving DecidableEq, Repr

/-- A value as it is listed: digits for a number, quotes around a text. -/
def Value.shown : Value → Text
  | number n => Text.ofInt n
  | text t => Text.quoted t

/-- A token and the offset of its first character. -/
structure Token where
  kind : Kind
  value : Option Value
  offset : Int
  deriving DecidableEq, Repr

namespace Token

/-- What a token says. -/
def content (t : Token) : Kind × Option Value :=
  (t.kind, t.value)

/-- Whether two tokens say the same. -/
def agrees (a b : Token) : Bool :=
  a.content == b.content

/-- How many different things the tokens of a list say. -/
def distinct (tokens : List Token) : Nat :=
  (tokens.map content).eraseDups.length

/-- A token on one line, for inspection: name and number of its kind, and its
value. -/
def inspected (t : Token) : Text :=
  let value := match t.value with
    | none => "None".toList
    | some v => v.shown
  "Token(type=<TokenType.".toList ++ t.kind.name.toList ++ ": ".toList
    ++ Text.ofNat t.kind.number ++ ">, value=".toList ++ value ++ ")".toList

end Token

end MonkeyScan
