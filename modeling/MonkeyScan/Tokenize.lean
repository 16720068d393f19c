import MonkeyScan.Item

/-!
# `MonkeyScan.Tokenize`: a whole source at once

Two readings of a source are offered. `tokenize` is strict: it gives the
tokens of a source without faults, and the first error of any other.
`tokenizeAll` collects: it gives all tokens and all errors. Both lists of
tokens end with the end of the input, at the length of the source.
-/

set_option autoImplicit false

namespace MonkeyScan

/-- The token that ends every list. -/
def endToken (source : Text) : Token :=
  ⟨.endOfInput, none, source.length⟩

/-- All tokens of a source and all errors in it, each in the order of their
offsets. -/
def tokenizeAll (source filename : Text) : List Token × List ScanError :=
  let found := items source
  let index := LineIndex.ofText source
  (found.filterMap Item.token? ++ [endToken source],
    found.filterMap (Item.error? source filename index))

/-- The tokens of a source, or the first error in it. -/
def tokenize (source filename : Text) : Except ScanError (List Token) :=
  let found := items source
  match found.findSome? (Item.error? source filename (LineIndex.ofText source)) with
  | some e => .error e
  | none => .ok (found.filterMap Item.token? ++ [endToken source])

end MonkeyScan
