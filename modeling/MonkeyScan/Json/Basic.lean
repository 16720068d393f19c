import MonkeyScan.Text.Basic

/-!
# `MonkeyScan.Json.Basic`: JSON values

The values of the JSON data model with integers as its only numbers. An
object keeps the order of its fields.
-/

set_option autoImplicit false

namespace MonkeyScan

/-- A JSON value. -/
inductive Json where
  | null
  | bool (b : Bool)
  | number (n : Int)
  | string (t : Text)
  | array (items : List Json)
  | object (fields : List (Text × Json))
  deriving Repr

end MonkeyScan
