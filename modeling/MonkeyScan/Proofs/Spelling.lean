import MonkeyScan.Proofs.Lexeme

/-!
# `MonkeyScan.Proofs.Spelling`: tokens and the texts they are written as

`Spells` relates what a token says to the texts that say it: one text for
every token but an integer, which may have leading zeros. The scanner keeps to
it: by `Front.spells`, a token that stands at the front of a text is spelled by
the characters that it takes.
-/

set_option autoImplicit false

namespace MonkeyScan

open Scan

/-- The texts that say the same as a token. -/
inductive Spells : Kind × Option Value → Text → Prop where
  | keyword (k : Keyword) : Spells (.keyword k, none) k.spelling
  | symbol (s : Symbol) : Spells (.symbol s, none) s.spelling
  | identifier (name : Text) : Spells (.identifier, some (.text name)) name
  | integer {digits : Text} (nonempty : digits ≠ [])
      (all : ∀ d ∈ digits, isDigit d = true) :
      Spells (.integer, some (.number (decimalValue digits))) digits
  | string (content : Text) :
      Spells (.string, some (.text content)) ('"' :: (content ++ ['"']))
  | illegal (c : Char) : Spells (.illegal, some (.text [c])) [c]

/-- The token that a lexeme stands for is spelled by the lexeme. -/
theorem Denotes.spells {w : Text} {kind : Kind} {value : Option Value}
    (h : Denotes w (.token kind value)) : Spells (kind, value) w := by
  cases h with
  | symbol s => exact .symbol s
  | keyword k => exact .keyword k
  | identifier => exact .identifier _
  | integer first others =>
      exact .integer (List.cons_ne_nil _ _) (List.forall_mem_cons.mpr ⟨first, others⟩)
  | string => exact .string _

/-- A token at the front of a text is spelled by the characters it takes. -/
theorem Front.spells {t m : Text} {kind : Kind} {value : Option Value}
    (h : Front t m (.token kind value)) : Spells (kind, value) m := by
  cases h with
  | lexeme _ denotes => exact denotes.spells
  | @illegal c => exact .illegal c

/-- No spelled token is the end of the input. -/
theorem Spells.kind_ne_endOfInput {content : Kind × Option Value} {w : Text}
    (h : Spells content w) : content.1 ≠ .endOfInput := by
  cases h <;> exact fun h => Kind.noConfusion h

end MonkeyScan
