/-!
# `MonkeyScan.Version`: the version of the program
-/

set_option autoImplicit false

namespace MonkeyScan

/-- The version that the program reports. -/
def version : String :=
  "0.1.0"

end MonkeyScan
