import MonkeyScan.Text.Basic

/-!
# `MonkeyScan.Path`: paths of files

A path is a starting point and the names from there. Reading one drops empty
names and the name `.`, which lead nowhere; the name `..` stays, because what
it means depends on the files.
-/

set_option autoImplicit false

namespace MonkeyScan

/-- Where a path starts: at the working directory, or at the root, which is
written with one slash or, as a spelling of its own, with two. -/
inductive Anchor where
  | here
  | root
  | doubleRoot
  deriving DecidableEq, Repr

/-- A path: where it starts and the names from there. -/
structure Path where
  anchor : Anchor
  names : List Text
  deriving DecidableEq, Repr

namespace Path

/-- The slashes at the start of a path. -/
def anchorText : Anchor → Text
  | .here => []
  | .root => ['/']
  | .doubleRoot => ['/', '/']

/-- The path that is written `t`. Three or more slashes count as one. -/
def ofText (t : Text) : Path :=
  let anchor := match (t.takeWhile (· == '/')).length with
    | 0 => Anchor.here
    | 2 => .doubleRoot
    | _ => .root
  ⟨anchor, (t.splitOn '/').filter fun name => !name.isEmpty && name != ['.']⟩

/-- How a path is written. The working directory is `.`. -/
def toText (p : Path) : Text :=
  if p.anchor = .here ∧ p.names = [] then ['.']
  else anchorText p.anchor ++ ['/'].intercalate p.names

/-- The directory of a path: the path without its last name, if it has one. -/
def parent (p : Path) : Path :=
  { p with names := p.names.dropLast }

/-- The path of a name in a directory. -/
def child (p : Path) (name : Text) : Path :=
  { p with names := p.names ++ [name] }

end Path

end MonkeyScan
