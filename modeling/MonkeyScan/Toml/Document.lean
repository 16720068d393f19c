import MonkeyScan.Toml.Statement

/-!
# `MonkeyScan.Toml.Document`: what the statements of a document make

Statements build one table. A header opens a table, to which the keys of the
following lines belong. A table is opened by a header once only, and tables
that are made by the points of a key are not opened at all after the section
they are made in. A value that holds others is closed: nothing is added below
it.
-/

set_option autoImplicit false

namespace MonkeyScan.Toml

/-- A document as far as it is read: its table, the path of the open table, the
paths that cannot be opened, those that cannot after this section, and the
paths that are closed. -/
structure Document where
  root : Table
  header : KeyPath
  opened : List KeyPath
  pending : List KeyPath
  closed : List KeyPath

namespace Document

/-- The document without statements. -/
def empty : Document :=
  ⟨[], [], [], [], []⟩

/-- Whether a path is at or below a closed one. -/
def isClosed (d : Document) (path : KeyPath) : Bool :=
  d.closed.any (·.isPrefixOf path)

/-- The document after the end of a section. -/
def endSection (d : Document) : Document :=
  { d with opened := d.opened ++ d.pending, pending := [] }

/-- The paths between a section and a key that is made of several parts. -/
def pathsBetween (header : KeyPath) (key : KeyPath) : List KeyPath :=
  (List.range (key.length - 1)).map fun i => header ++ key.take (i + 1)

/-- Takes one statement. -/
def apply (d : Document) : Statement → Except Fault Document
  | .assign key value =>
    let between := pathsBetween d.header key
    let parent := d.header ++ key.dropLast
    if between.any (d.opened.contains ·) || d.isClosed parent then .error .keyTaken
    else
      match Table.update? true (Table.add? (key.getLastD []) value) parent d.root with
      | none => .error .keyTaken
      | some root =>
        let closed := if value.isContainer then (d.header ++ key) :: d.closed else d.closed
        .ok { d with root := root, pending := d.pending ++ between, closed := closed }
  | .table path =>
    let d := d.endSection
    if d.opened.contains path || d.isClosed path then .error .keyTaken
    else
      match Table.update? true some path d.root with
      | none => .error .keyTaken
      | some root => .ok { d with root := root, header := path, opened := path :: d.opened }
  | .arrayTable path =>
    let d := d.endSection
    if d.isClosed path then .error .keyTaken
    else
      match Table.update? true (Table.append? (path.getLastD [])) path.dropLast d.root with
      | none => .error .keyTaken
      | some root =>
        let elsewhere (paths : List KeyPath) := paths.filter fun p => !path.isPrefixOf p
        .ok { d with
          root := root
          header := path
          opened := path :: elsewhere d.opened
          closed := elsewhere d.closed }

end Document

/-- The table of a document, or the first fault in it. -/
def read (t : Text) : Except Fault Table := do
  let (found, fault) := statements t
  let document ← found.foldlM Document.apply Document.empty
  match fault with
  | none => return document.root
  | some f => throw f

end MonkeyScan.Toml
