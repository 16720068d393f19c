import MonkeyScan.Failure
import MonkeyScan.Text.Newline
import MonkeyScan.Toml.Document

/-!
# `MonkeyScan.Config`: the configuration file

A configuration file is a TOML document. It is named by the user or looked
for beside the input; where there is no such file the configuration is empty.
-/

set_option autoImplicit false

namespace MonkeyScan

/-- Why there is no configuration: the file is no document, or it cannot be
used at all. -/
inductive ConfigFault where
  | malformed (fault : Toml.Fault)
  | failed (failure : Failure)
  deriving DecidableEq, Repr

namespace Config

/-- The name of a configuration file that is looked for. -/
def defaultName : Text :=
  "monkeylex.toml".toList

/-- The table of a document. -/
def read (t : Text) : Except ConfigFault Toml.Table :=
  match Toml.read (Text.dropReturns t) with
  | .ok table => .ok table
  | .error (.limit passed) => .error (.failed (.limit passed))
  | .error fault => .error (.malformed fault)

/-- The path of the configuration file: the one that is named, or else the one
in the directory of the input. -/
def path (named : Option Path) (directory : Path) : Path :=
  named.getD (directory.child defaultName)

/-- The configuration at a path. -/
def load (look : Lookup) (p : Path) : Except ConfigFault Toml.Table :=
  match look.isFile p with
  | .error fault => .error (.failed (.access p fault))
  | .ok false => .ok []
  | .ok true =>
    match look.readText p with
    | .error failure => .error (.failed failure)
    | .ok t => read t

end Config

end MonkeyScan
