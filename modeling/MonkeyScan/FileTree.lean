import MonkeyScan.Path
import MonkeyScan.Text.Quoted
import MonkeyScan.Text.Utf8

/-!
# `MonkeyScan.FileTree`: files and what can go wrong with them

A program looks paths up and finds a file, a directory, or a reason why it
finds neither. `Lookup` is all that reading needs. `FileTree` is a complete
value of a file system: it answers look-ups and takes writes. A path is
followed name by name, so that every name before the last must be that of a
directory, and `..` leads from a directory to the one that holds it.
-/

set_option autoImplicit false

namespace MonkeyScan

/-! ### Access -/

/-- Why a path leads to no file. -/
inductive AccessFault where
  | noSuchFile
  | notDirectory
  | isDirectory
  | nameTooLong
  /-- The path holds a NUL and names nothing at all. -/
  | nulInPath
  /-- A reason that only a running system knows, with its number. -/
  | other (code : Nat) (reason : Text)
  deriving DecidableEq, Repr

namespace AccessFault

/-- The number by which a system knows a fault. -/
def code : AccessFault → Nat
  | noSuchFile => 2
  | notDirectory => 20
  | isDirectory => 21
  | nameTooLong => 36
  | nulInPath => 22
  | other code _ => code

/-- The wording of a fault. -/
def reason : AccessFault → Text
  | noSuchFile => "No such file or directory".toList
  | notDirectory => "Not a directory".toList
  | isDirectory => "Is a directory".toList
  | nameTooLong => "File name too long".toList
  | nulInPath => "embedded null byte".toList
  | other _ reason => reason

/-- The full sentence for a fault on a path. -/
def message (f : AccessFault) (p : Path) : Text :=
  match f with
  | nulInPath => f.reason
  | _ =>
    "[Errno ".toList ++ Text.ofNat f.code ++ "] ".toList ++ f.reason ++ ": ".toList
      ++ Text.quoted p.toText

end AccessFault

/-- What a path can lead to. -/
inductive Node where
  | file (bytes : List UInt8)
  | directory
  deriving DecidableEq, Repr

/-- What each path leads to. -/
abbrev Lookup := Path → Except AccessFault Node

namespace Lookup

/-- Whether a path leads to a file. A path that leads nowhere does not; any
other fault is passed on. -/
def isFile (look : Lookup) (p : Path) : Except AccessFault Bool :=
  match look p with
  | .ok (.file _) => .ok true
  | .ok .directory => .ok false
  | .error .noSuchFile | .error .notDirectory | .error .nulInPath => .ok false
  | .error f => .error f

/-- The bytes of a file. -/
def read (look : Lookup) (p : Path) : Except AccessFault (List UInt8) :=
  match look p with
  | .ok (.file bytes) => .ok bytes
  | .ok .directory => .error .isDirectory
  | .error f => .error f

end Lookup

/-! ### Trees -/

/-- The names from the root down to a file or directory. -/
abbrev Location := List Text

/-- Files and directories by location, and the working directory. The root is
a directory and is not listed. -/
structure FileTree where
  nodes : List (Location × Node)
  working : Location
  deriving DecidableEq, Repr

namespace FileTree

/-- What stands at a location. -/
def node? (tree : FileTree) (location : Location) : Option Node :=
  if location = [] then some .directory else tree.nodes.lookup location

/-- The bytes in a name, at most. -/
def maxName : Nat := 255

/-- The bytes in a path, at most. -/
def maxPath : Nat := 4095

/-- One step from a directory to what a name in it stands for, which need not
exist. -/
def enter (location : Location) (name : Text) : Except AccessFault Location :=
  if name = ['.', '.'] then .ok location.dropLast
  else if (Text.Utf8.encode name).length > maxName then .error .nameTooLong
  else .ok (location ++ [name])

/-- Follows names from a location through directories. -/
def follow (tree : FileTree) : Location → List Text → Except AccessFault Location
  | location, [] => .ok location
  | location, name :: names =>
    match tree.node? location with
    | some .directory => do follow tree (← enter location name) names
    | some (.file _) => .error .notDirectory
    | none => .error .noSuchFile

/-- The location that a path stands for, which need not exist itself. -/
def locate (tree : FileTree) (p : Path) : Except AccessFault Location :=
  if p.names.any (·.contains '\x00') then .error .nulInPath
  else if (Text.Utf8.encode p.toText).length > maxPath then .error .nameTooLong
  else tree.follow (if p.anchor = .here then tree.working else []) p.names

/-- What a path leads to. -/
def look (tree : FileTree) : Lookup := fun p => do
  match tree.node? (← tree.locate p) with
  | some node => return node
  | none => throw .noSuchFile

/-- The tree with a file at a location, instead of what was there. -/
def put (tree : FileTree) (location : Location) (bytes : List UInt8) : FileTree :=
  { tree with
    nodes := (location, .file bytes) :: tree.nodes.filter fun entry => entry.1 != location }

/-- The tree after a text is written to a path: its directory must exist, and
it must not be a directory itself. -/
def write (tree : FileTree) (p : Path) (t : Text) : Except AccessFault FileTree := do
  let location ← tree.locate p
  match tree.node? location with
  | some .directory => throw .isDirectory
  | _ => return tree.put location (Text.Utf8.encode t)

end FileTree

end MonkeyScan
