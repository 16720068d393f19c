import MonkeyScan.Json.Printer
import MonkeyScan.Position
import MonkeyScan.Token.Basic

/-!
# `MonkeyScan.Listing`: token lists for people and for programs

A token list is rendered either as text, one row per token with aligned
columns, or as a JSON array with one object per token. Both tell the kind,
the value, the line and the column of each token.
-/

set_option autoImplicit false

namespace MonkeyScan

/-- The two renderings. -/
inductive Format where
  | text
  | json
  deriving DecidableEq, Repr

namespace Format

/-- All formats, in order. -/
def all : List Format :=
  [text, json]

/-- How a format is called. -/
def name : Format → Text
  | text => ['t', 'e', 'x', 't']
  | json => ['j', 's', 'o', 'n']

/-- The format of a name. -/
def ofName? (name : Text) : Option Format :=
  all.find? fun f => f.name == name

/-- The format of a name, which is text if the name is no other. -/
def ofName (name : Text) : Format :=
  (ofName? name).getD text

end Format

namespace Listing

/-! ### Rows -/

/-- What a listing tells of a token. -/
structure Entry where
  kind : Kind
  value : Option Value
  line : Int
  column : Int
  deriving DecidableEq, Repr

/-- The entry of a token in an indexed source. -/
def entry (index : LineIndex) (t : Token) : Entry :=
  let p := index.position t.offset
  ⟨t.kind, t.value, p.line, p.column⟩

/-- The row of an entry, with its line feed: the place, eight characters wide,
and the name of the kind; where there is a value, the name is ten characters
wide and the value follows. -/
def Entry.row (e : Entry) : Text :=
  let place := Text.padRight 8 (Text.ofInt e.line ++ [':'] ++ Text.ofInt e.column)
  let name := e.kind.name.toList
  match e.value with
  | none => place ++ [' '] ++ name ++ ['\n']
  | some v => place ++ [' '] ++ Text.padRight 10 name ++ [' '] ++ v.shown ++ ['\n']

/-- The entries of tokens in a source. -/
def entries (tokens : List Token) (source : Text) : List Entry :=
  tokens.map (entry (LineIndex.ofText source))

/-- The text rendering of tokens. -/
def text (tokens : List Token) (source : Text) : Text :=
  (entries tokens source).flatMap Entry.row

/-! ### Objects -/

/-- A value in JSON, `null` where there is none. -/
def valueJson : Option Value → Json
  | none => .null
  | some (.number n) => .number n
  | some (.text t) => .string t

/-- The object of an entry. -/
def Entry.toJson (e : Entry) : Json :=
  .object [("type".toList, .string e.kind.name.toList), ("value".toList, valueJson e.value),
    ("line".toList, .number e.line), ("column".toList, .number e.column)]

/-- The JSON rendering of tokens, which ends with a line feed. -/
def json (tokens : List Token) (source : Text) : Text :=
  (Json.array ((entries tokens source).map Entry.toJson)).pretty 0 ++ ['\n']

/-- The rendering of tokens in a format. -/
def render (tokens : List Token) (source : Text) : Format → Text
  | .text => text tokens source
  | .json => json tokens source

end Listing

end MonkeyScan
