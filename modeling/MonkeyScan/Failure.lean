import MonkeyScan.FileTree
import MonkeyScan.Toml.Limit

/-!
# `MonkeyScan.Failure`: what stops the work on a file
-/

set_option autoImplicit false

namespace MonkeyScan

/-- Why a file cannot be used: it is not found, its bytes are not text, or what
it holds passes a limit. -/
inductive Failure where
  | access (path : Path) (fault : AccessFault)
  | undecodable (fault : Text.Utf8.Fault)
  | limit (passed : Toml.Limit)
  deriving DecidableEq, Repr

namespace Failure

/-- The wording of a failure. -/
def message : Failure → Text
  | access path fault => fault.message path
  | undecodable fault => fault.message
  | limit passed => passed.message

end Failure

/-- The text of a file. -/
def Lookup.readText (look : Lookup) (p : Path) : Except Failure Text :=
  match look.read p with
  | .error fault => .error (.access p fault)
  | .ok bytes =>
    match Text.Utf8.decode bytes with
    | .error fault => .error (.undecodable fault)
    | .ok t => .ok t

end MonkeyScan
