import MonkeyScan.Toml.Value

/-!
# `MonkeyScan.Toml.Table`: building tables by key paths

A key path leads from a table into the tables below it. Tables on the way
that do not exist yet are made; anything else on the way bars it, except that
a path may lead on from the last table of an array.
-/

set_option autoImplicit false

namespace MonkeyScan.Toml

/-- The keys from a table down to a value below it. -/
abbrev KeyPath := List Text

namespace Table

/-- Puts a value in place of the one under a key, which keeps its place. -/
def replace (t : Table) (key : Text) (value : Value) : Table :=
  t.map fun field => if field.1 = key then (key, value) else field

/-- Changes the table at the end of a path; `none` if the path is barred or
the change fails. `throughArrays` tells whether the path may lead through
arrays of tables. -/
def update? (throughArrays : Bool) (change : Table → Option Table) :
    KeyPath → Table → Option Table
  | [], t => change t
  | key :: path, t =>
    match t.lookup key with
    | none => do
      let below ← update? throughArrays change path []
      return t ++ [(key, .table below)]
    | some (.table fields) => do
      let below ← update? throughArrays change path fields
      return replace t key (.table below)
    | some (.array items) =>
      match throughArrays, items.getLast? with
      | true, some (.table fields) => do
        let below ← update? throughArrays change path fields
        return replace t key (.array (items.dropLast ++ [.table below]))
      | _, _ => none
    | some _ => none

/-- Adds a field; `none` if the key is taken. -/
def add? (key : Text) (value : Value) (t : Table) : Option Table :=
  match t.lookup key with
  | none => some (t ++ [(key, value)])
  | some _ => none

/-- Adds an empty table to the array under a key, which is made if the key is
free; `none` if there is something else. -/
def append? (key : Text) (t : Table) : Option Table :=
  match t.lookup key with
  | none => some (t ++ [(key, .array [.table []])])
  | some (.array items) => some (replace t key (.array (items ++ [.table []])))
  | some _ => none

end Table

end MonkeyScan.Toml
