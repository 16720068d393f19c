import MonkeyScan.Toml.Scalar

/-!
# `MonkeyScan.Toml.Statement`: the lines of a document

A document is a sequence of statements: a key with a value, the header of a
table, or the header of one more table of an array. `statements` splits a
text into them, and tells where it stops being one; what the statements mean
together is not its concern.

Values nest, and each level of nesting and each item takes at least one
character. The readers are bounded by a number that is larger than that. The
nesting has a bound of its own: an array takes two places on a stack and a
table on one line three, and neither is begun without the places that reading
its first part needs. That part is taken to be the same in all of them, and a
value that is no container to need none. At the bound itself, inside about 492
arrays, this is off by a place or two: an empty table on one line needs less,
and a string with an escape needs more.
-/

set_option autoImplicit false

namespace MonkeyScan.Toml

/-! ### Layout -/

/-- Drops a comment, if one starts here, up to the end of the line. -/
def skipComment : Text → Except Fault Text
  | '#' :: rest =>
    if (rest.takeWhile (· != '\n')).any isForbidden then .error .controlCharacter
    else .ok (rest.dropWhile (· != '\n'))
  | t => .ok t

/-- Drops spaces, line feeds and comments; `inComment` tells that a comment
has started. -/
def skipLayout (inComment : Bool) : Text → Except Fault Text
  | [] => .ok []
  | c :: rest =>
    if c = '\n' then skipLayout false rest
    else if inComment then
      if isForbidden c then .error .controlCharacter else skipLayout true rest
    else if isSpace c then skipLayout false rest
    else if c = '#' then skipLayout true rest
    else .ok (c :: rest)

/-- Drops what may follow a statement on its line, and the line feed. -/
def skipLineEnd (t : Text) : Except Fault Text := do
  match ← skipComment (skipSpaces t) with
  | [] => return []
  | '\n' :: rest => return rest
  | _ => throw .lineEndExpected

/-! ### Values -/

/-- The rest after a key's equals sign and the spaces behind it. -/
def skipEquals : Text → Except Fault Text
  | '=' :: rest => .ok (skipSpaces rest)
  | _ => .error .equalsExpected

mutual

/-- Any value. -/
def value (room : Nat) : Nat → Text → Except Fault (Value × Text)
  | 0, _ => .error .valueExpected
  | fuel + 1, t =>
    match t with
    | '[' :: rest => do
      if room < 4 then throw (.limit .nestingToRead)
      let (items, rest) ← arrayItems (room - 2) fuel (← skipLayout false rest)
      return (.array items, rest)
    | '{' :: rest => do
      if room < 6 then throw (.limit .nestingToRead)
      match skipSpaces rest with
      | '}' :: rest => return (.table [], rest)
      | rest =>
        let (fields, rest) ← inlineFields (room - 3) fuel [] [] rest
        return (.table fields, rest)
    | t => scalar t

/-- The items of an array up to its closing bracket. -/
def arrayItems (room : Nat) : Nat → Text → Except Fault (List Value × Text)
  | 0, _ => .error .valueExpected
  | fuel + 1, t =>
    match t with
    | ']' :: rest => .ok ([], rest)
    | t => do
      let (item, rest) ← value room fuel t
      match ← skipLayout false rest with
      | ']' :: rest => return ([item], rest)
      | ',' :: rest =>
        let (items, rest) ← arrayItems room fuel (← skipLayout false rest)
        return (item :: items, rest)
      | _ => throw .commaExpected

/-- The fields of a table on one line, up to its closing bracket, added to
those already `made`. Fields below a `closed` one cannot be added. -/
def inlineFields (room : Nat) : Nat → Table → List KeyPath → Text → Except Fault (Table × Text)
  | 0, _, _, _ => .error .valueExpected
  | fuel + 1, made, closed, t => do
    let (path, rest) ← key t
    let (item, rest) ← value room fuel (← skipEquals rest)
    if closed.any (·.isPrefixOf path) then throw .keyTaken
    match Table.update? false (Table.add? (path.getLastD []) item) path.dropLast made with
    | none => throw .keyTaken
    | some made =>
      match skipSpaces rest with
      | '}' :: rest => return (made, rest)
      | ',' :: rest =>
        let closed := if item.isContainer then path :: closed else closed
        inlineFields room fuel made closed (skipSpaces rest)
      | _ => throw .commaExpected

end

/-! ### Statements -/

/-- A line of a document. -/
inductive Statement where
  | assign (path : KeyPath) (value : Value)
  | table (path : KeyPath)
  | arrayTable (path : KeyPath)
  deriving Repr

/-- The statement at the front of a text. -/
def statement (t : Text) : Except Fault (Statement × Text) :=
  match t with
  | '[' :: '[' :: rest => do
    match ← key (skipSpaces rest) with
    | (path, ']' :: ']' :: rest) => return (.arrayTable path, rest)
    | _ => throw .bracketExpected
  | '[' :: rest => do
    match ← key (skipSpaces rest) with
    | (path, ']' :: rest) => return (.table path, rest)
    | _ => throw .bracketExpected
  | c :: _ =>
    if isBareKeyChar c || c == '"' || c == '\'' then do
      let (path, rest) ← key t
      let rest ← skipEquals rest
      let (item, rest) ← value readingRoom (2 * rest.length + 2) rest
      return (.assign path item, rest)
    else .error .statementExpected
  | [] => .error .statementExpected

/-- The statements of a text, and the fault that ends them, if one does. The
number bounds the lines. -/
def statementsWithin : Nat → Text → List Statement × Option Fault
  | 0, _ => ([], none)
  | lines + 1, t =>
    match skipSpaces t with
    | [] => ([], none)
    | '\n' :: rest => statementsWithin lines rest
    | '#' :: rest =>
      match skipLineEnd ('#' :: rest) with
      | .error f => ([], some f)
      | .ok rest => statementsWithin lines rest
    | t =>
      match statement t with
      | .error f => ([], some f)
      | .ok (s, rest) =>
        match skipLineEnd rest with
        | .error f => ([s], some f)
        | .ok rest =>
          let (more, fault) := statementsWithin lines rest
          (s :: more, fault)

/-- The statements of a text, and the fault that ends them, if one does. -/
def statements (t : Text) : List Statement × Option Fault :=
  statementsWithin (t.length + 1) t

end MonkeyScan.Toml
