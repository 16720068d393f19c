import MonkeyScan.Listing
import MonkeyScan.Proofs.JsonReader

/-!
# `MonkeyScan.Proofs.JsonListing`: the JSON listing decodes to the tokens

The JSON listing is one array with an object for each token. It is what the printer
writes for a value that is built from the tokens, so by the grammar it is JSON for that
value, and by the reader for no other; what is left to say here is what the value holds.

* `exists_pretty_array_eq`: an array ends with its bracket, also if it is empty.
* `json_decodes`: the listing as a whole.
-/

set_option autoImplicit false

namespace MonkeyScan.Listing

/-- The object of a token: the name of its kind, its value or `null`, and the line and column
of its offset, each under its key. -/
def objectOf (source : Text) (t : Token) : Json :=
  let p := (LineIndex.ofText source).position t.offset
  let value : Json :=
    match t.value with
    | none => .null
    | some (.number n) => .number n
    | some (.text content) => .string content
  .object [("type".toList, .string t.kind.name.toList), ("value".toList, value),
    ("line".toList, .number p.line), ("column".toList, .number p.column)]

/-- What a JSON listing tells of the tokens that it was made of. -/
structure JsonDecodes (tokens : List Token) (source : Text) : Prop where
  /-- It is written in printable ASCII, line feeds apart. -/
  plain : ∀ c ∈ json tokens source, c = '\n' ∨ (0x20 ≤ c.toNat ∧ c.toNat ≤ 0x7e)
  /-- It ends with one line feed, behind the closing bracket. -/
  ended : ∃ body, json tokens source = body ++ [']', '\n']
  /-- It is well-formed JSON, for an array with the object of each token and for no other
  value. -/
  written : ∀ v, Json.Document v (json tokens source) ↔ v = .array (tokens.map (objectOf source))
  /-- That array is what reading it gives. -/
  decoded : Json.read? (json tokens source) = some (.array (tokens.map (objectOf source)))

/-- The entry of a token becomes its object. -/
theorem toJson_entry (t : Token) (source : Text) :
    (entry (LineIndex.ofText source) t).toJson = objectOf source t := by
  obtain ⟨kind, value, offset⟩ := t
  rcases value with _ | n | content <;> rfl

/-- An array ends with its bracket. -/
theorem exists_pretty_array_eq (items : List Json) (depth : Nat) :
    ∃ body, (Json.array items).pretty depth = body ++ [']'] := by
  cases items with
  | nil => exact ⟨['['], rfl⟩
  | cons item more => exact ⟨_, rfl⟩

/-- The JSON listing of tokens decodes to them. -/
theorem json_decodes (tokens : List Token) (source : Text) : JsonDecodes tokens source := by
  have hdocument : Json.Document (.array (tokens.map (objectOf source)))
      (json tokens source) := by
    have hobjects : (entries tokens source).map Entry.toJson = tokens.map (objectOf source) := by
      rw [entries, List.map_map]
      exact List.map_congr_left fun t _ => toJson_entry t source
    rw [json, hobjects]
    exact Json.document_pretty _
  constructor
  case plain =>
    intro c hc
    rcases List.mem_append.mp hc with hc | hc
    · have hplain := Json.isPlain_of_mem_pretty _ _ c hc
      rwa [Json.isPlain, Bool.or_eq_true, beq_iff_eq, Text.isPrintableAscii_iff] at hplain
    · exact .inl (List.mem_singleton.mp hc)
  case ended =>
    obtain ⟨body, h⟩ :=
      exists_pretty_array_eq ((entries tokens source).map Entry.toJson) 0
    exact ⟨body, by rw [json, h, List.append_assoc]; rfl⟩
  case written => exact fun v => ⟨fun h => h.unique hdocument, fun h => h ▸ hdocument⟩
  case decoded => exact Json.read?_eq_some_iff.mpr hdocument

end MonkeyScan.Listing
