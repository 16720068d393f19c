import MonkeyScan.Proofs.JsonGrammar

/-!
# `MonkeyScan.Proofs.JsonReader`: reading JSON text

A reader for the grammar, by recursive descent. It reads a value from the front of a text
and leaves the rest; white space is skipped before each part, so that the first character
of a part decides what it is.

The reader accepts the texts of the grammar and no others, and gives the value that they
are written for, of which there is only one: that is `read?_eq_some_iff`. From the grammar
to the reader the proof is by induction on how a value is written; a numeral needs care
there, which digits behind it would go on. From the reader to the grammar it is by
induction on the length of the text, since a part that is read is not part of the text by
its form: `SoundBelow` states what holds of all shorter texts.

* `Written.readValue_append`: a value is read, unless a digit follows it.
* `SoundBelow.of_readValue`: what is read is a value.
* `read?_eq_some_iff`: both for whole texts.
-/

set_option autoImplicit false

namespace MonkeyScan.Json

open Text (readCodes ofCodes? IsInteger stopsAt_cons)
open Scan (isDigit StopsAt)

/-! ### The reader -/

/-- Reads a string from the front of a text. -/
def readString : Text → Option (Text × Text)
  | '"' :: t =>
    (readCodes stringEscape? '"' t).bind fun (units, rest) =>
      (ofCodes? (combinePairs units)).map fun s => (s, rest)
  | _ => none

/-- A text without the white space at its front. -/
def skipGaps (t : Text) : Text :=
  t.dropWhile isGap

/-- Skipping makes no text longer. -/
theorem length_skipGaps_le (t : Text) : (skipGaps t).length ≤ t.length :=
  (List.dropWhile_sublist _).length_le

/-- What is left behind a character is shorter than what was, also with white space
skipped. -/
theorem length_skipGaps_lt {c : Char} {t behind : Text} (h : behind.length ≤ t.length) :
    (skipGaps behind).length < (c :: t).length :=
  Nat.lt_succ_of_le (Nat.le_trans (length_skipGaps_le behind) h)

/-- Reads a value that holds no others from the front of a text. -/
def readScalar (t : Text) : Option (Json × Text) :=
  -- No word goes on another, so at most one of them is in front.
  match words.find? fun word => word.1.isPrefixOf t with
  | some word => some (word.2, t.drop word.1.length)
  | none =>
    if t.head? = some '"' then (readString t).map fun (s, rest) => (string s, rest)
    else (Text.readInt t).map fun (n, rest) => (number n, rest)

mutual

/-- Reads a value from the front of a text. What is left behind a part of it is compared
with what there was, by which the recursion is seen to end; it is never longer. -/
def readValue : Text → Option (Json × Text)
  | '[' :: t =>
    match skipGaps t with
    | ']' :: rest => some (array [], rest)
    | _ => do
      let (item, behind) ← readValue (skipGaps t)
      if behind.length ≤ t.length then
        let (items, rest) ← readItems (skipGaps behind)
        some (array (item :: items), rest)
      else none
  | '{' :: t =>
    match skipGaps t with
    | '}' :: rest => some (object [], rest)
    | _ => do
      let (field, behind) ← readField (skipGaps t)
      if behind.length ≤ t.length then
        let (fields, rest) ← readFields (skipGaps behind)
        some (object (field :: fields), rest)
      else none
  | t => readScalar t
termination_by t => t.length
decreasing_by all_goals exact length_skipGaps_lt (by omega)

/-- Reads the items behind the first, and the bracket behind the last. -/
def readItems : Text → Option (List Json × Text)
  | ']' :: rest => some ([], rest)
  | ',' :: t => do
    let (item, behind) ← readValue (skipGaps t)
    if behind.length ≤ t.length then
      let (items, rest) ← readItems (skipGaps behind)
      some (item :: items, rest)
    else none
  | _ => none
termination_by t => t.length
decreasing_by all_goals exact length_skipGaps_lt (by omega)

/-- Reads the fields behind the first, and the bracket behind the last. -/
def readFields : Text → Option (List (Text × Json) × Text)
  | '}' :: rest => some ([], rest)
  | ',' :: t => do
    let (field, behind) ← readField (skipGaps t)
    if behind.length ≤ t.length then
      let (fields, rest) ← readFields (skipGaps behind)
      some (field :: fields, rest)
    else none
  | _ => none
termination_by t => t.length
decreasing_by all_goals exact length_skipGaps_lt (by omega)

/-- Reads a field: its name, a colon and its value. -/
def readField (t : Text) : Option ((Text × Json) × Text) := do
  let (key, behind) ← readString t
  match skipGaps behind with
  | ':' :: behind =>
    if behind.length < t.length then
      let (value, rest) ← readValue (skipGaps behind)
      some ((key, value), rest)
    else none
  | _ => none
termination_by t.length
decreasing_by exact Nat.lt_of_le_of_lt (length_skipGaps_le _) (by omega)

end

/-- Reads a text that holds one value and nothing else but white space. -/
def read? (t : Text) : Option Json :=
  (readValue (skipGaps t)).bind fun (v, rest) => if skipGaps rest = [] then some v else none

/-! ### White space -/

section
variable {c : Char} {g t rest : Text}

/-- A text is white space and what is left when it is skipped. -/
theorem exists_gaps (t : Text) : ∃ g, Gaps g ∧ g ++ skipGaps t = t :=
  ⟨t.takeWhile isGap, fun _ hc => List.mem_takeWhile_imp hc, List.takeWhile_append_dropWhile⟩

/-- White space is skipped, and nothing in front of anything else. -/
theorem skipGaps_append (hg : Gaps g) (hc : isGap c = false) (rest : Text) :
    skipGaps (g ++ c :: rest) = c :: rest := by
  rw [skipGaps, List.dropWhile_append_of_pos hg, List.dropWhile_cons_of_neg (by rw [hc]; decide)]

/-- No digit is in front of white space. -/
theorem stopsAt_gaps (hg : Gaps g) (hrest : StopsAt isDigit rest) :
    StopsAt isDigit (g ++ rest) := by
  cases g with
  | nil => exact hrest
  | cons d more =>
      refine stopsAt_cons ?_ _
      have hd := hg d List.mem_cons_self
      rw [← Bool.not_eq_true]
      intro hdigit
      simp only [isGap, Bool.or_eq_true, beq_iff_eq] at hd
      rcases hd with ((rfl | rfl) | rfl) | rfl <;> exact absurd hdigit (by decide)

end

/-! ### From the grammar to the reader -/

section
variable {v item : Json} {items : List Json} {field : Text × Json} {fields : List (Text × Json)}
  {s t g behind rest : Text}

/-- A string is read, whatever follows it. -/
theorem IsString.readString_append (h : IsString s t) (rest : Text) :
    readString (t ++ rest) = some (s, rest) := by
  obtain ⟨units, body, hbody, hs, rfl⟩ := h
  have hread := hbody.readCodes_append (by decide) rest
  simp only [List.cons_append, List.append_assoc, List.nil_append, readString, hread,
    Option.bind_some, hs, Option.map_some]

/-- A string starts with a quote. -/
theorem IsString.exists_cons (h : IsString s t) : ∃ more, t = '"' :: more := by
  obtain ⟨units, body, -, -, rfl⟩ := h
  exact ⟨_, rfl⟩

/-- A text that starts with no bracket starts with no value that holds others. -/
theorem readValue_of_head {c : Char} (harray : c ≠ '[') (hobject : c ≠ '{') :
    readValue (c :: rest) = readScalar (c :: rest) := by
  rw [readValue.eq_3]
  · exact fun t h => harray (List.cons.inj h).1
  · exact fun t h => hobject (List.cons.inj h).1

/-- A word is read, whatever follows it. -/
theorem readValue_word (h : (t, v) ∈ words) : readValue (t ++ rest) = some (v, rest) := by
  simp only [words, List.mem_cons, Prod.mk.injEq, List.not_mem_nil, or_false] at h
  rcases h with ⟨rfl, rfl⟩ | ⟨rfl, rfl⟩ | ⟨rfl, rfl⟩
  all_goals exact readValue_of_head (by decide) (by decide)

/-- A string is read as a value. -/
theorem readValue_string (h : IsString s t) :
    readValue (t ++ rest) = some (string s, rest) := by
  have hread := h.readString_append rest
  obtain ⟨more, rfl⟩ := h.exists_cons
  rw [List.cons_append] at hread ⊢
  rw [readValue_of_head (by decide) (by decide)]
  show (readString _).map _ = _
  rw [hread]
  rfl

/-- A number is read where no digit follows it. -/
theorem readValue_number {n : Int} (h : IsInteger n t) (hrest : StopsAt isDigit rest) :
    readValue (t ++ rest) = some (number n, rest) := by
  have hread := h.readInt_append hrest
  obtain ⟨c, more, rfl, hc⟩ := h.exists_cons
  -- The first character rules out brackets, words and strings.
  have hne {d : Char} (hd : ¬ (d = '-' ∨ isDigit d = true)) : d ≠ c := fun heq => hd (heq ▸ hc)
  have hword : words.find? (fun word => word.1.isPrefixOf (c :: (more ++ rest))) = none := by
    simp [words, List.isPrefixOf, hne (d := 'n') (by decide), hne (d := 't') (by decide),
      hne (d := 'f') (by decide)]
  have hhead : ¬ (c :: (more ++ rest)).head? = some '"' := fun heq =>
    hne (by decide) (Option.some.inj heq).symm
  rw [List.cons_append] at hread ⊢
  rw [readValue_of_head (Ne.symm (hne (by decide))) (Ne.symm (hne (by decide)))]
  simp only [readScalar, hword, if_neg hhead, hread, Option.map_some]

/-- A value starts with no white space, and with no closing bracket. -/
theorem Written.exists_cons (h : Written v t) :
    ∃ c more, t = c :: more ∧ isGap c = false ∧ c ≠ ']' := by
  cases h with
  | word listed =>
      simp only [words, List.mem_cons, Prod.mk.injEq, List.not_mem_nil, or_false] at listed
      rcases listed with ⟨rfl, -⟩ | ⟨rfl, -⟩ | ⟨rfl, -⟩
      all_goals exact ⟨_, _, rfl, by decide, by decide⟩
  | number integer =>
      obtain ⟨c, more, rfl, hc⟩ := integer.exists_cons
      refine ⟨c, more, rfl, ?_, ?_⟩
      · rw [← Bool.not_eq_true]
        intro hgap
        simp only [isGap, Bool.or_eq_true, beq_iff_eq] at hgap
        rcases hgap with ((rfl | rfl) | rfl) | rfl <;> exact absurd hc (by decide)
      · rintro rfl
        exact absurd hc (by decide)
  | string quoted =>
      obtain ⟨more, rfl⟩ := quoted.exists_cons
      exact ⟨_, _, rfl, by decide, by decide⟩
  | emptyArray | array | emptyObject | object => exact ⟨_, _, rfl, by decide, by decide⟩

/-- In front of a value white space is skipped, and nothing else. -/
theorem Written.skipGaps_append (h : Written v t) (hg : Gaps g) (rest : Text) :
    skipGaps (g ++ (t ++ rest)) = t ++ rest := by
  obtain ⟨c, more, rfl, hc, -⟩ := h.exists_cons
  exact Json.skipGaps_append hg hc _

/-- A field starts with a quote. -/
theorem Field.exists_cons (h : Field field t) : ∃ more, t = '"' :: more := by
  obtain ⟨quoted, -, -, -⟩ := h
  obtain ⟨more, rfl⟩ := quoted.exists_cons
  exact ⟨_, rfl⟩

/-- In front of a field white space is skipped, and nothing else. -/
theorem Field.skipGaps_append (h : Field field t) (hg : Gaps g) (rest : Text) :
    skipGaps (g ++ (t ++ rest)) = t ++ rest := by
  obtain ⟨more, rfl⟩ := h.exists_cons
  exact Json.skipGaps_append hg rfl _

/-- Items behind the first start with a comma, if there are any. -/
theorem Items.eq_nil_or_cons (h : Items items t) : t = [] ∨ ∃ more, t = ',' :: more := by
  cases h with
  | nil => exact .inl rfl
  | cons => exact .inr ⟨_, rfl⟩

/-- So do fields. -/
theorem Fields.eq_nil_or_cons (h : Fields fields t) : t = [] ∨ ∃ more, t = ',' :: more := by
  cases h with
  | nil => exact .inl rfl
  | cons => exact .inr ⟨_, rfl⟩

/-- What follows an item, white space and then a comma or the closing bracket, goes on no
numeral, and only the white space is skipped. -/
theorem behind_item {c : Char} (hc : isGap c = false ∧ isDigit c = false)
    (hg : Gaps g) (ht : t = [] ∨ ∃ more, t = ',' :: more) (rest : Text) :
    StopsAt isDigit (g ++ (t ++ c :: rest)) ∧
      skipGaps (g ++ (t ++ c :: rest)) = t ++ c :: rest := by
  rcases ht with rfl | ⟨more, rfl⟩
  · exact ⟨stopsAt_gaps hg (stopsAt_cons hc.2 _), skipGaps_append hg hc.1 _⟩
  · exact ⟨stopsAt_gaps hg (stopsAt_cons rfl _), skipGaps_append hg rfl _⟩

/-- An array is read if its first item is and those behind it are. -/
theorem readValue_array (hg : Gaps g) (first : Written item t)
    (hitem : readValue (t ++ behind) = some (item, behind))
    (hitems : readItems (skipGaps behind) = some (items, rest)) :
    readValue ('[' :: (g ++ (t ++ behind))) = some (array (item :: items), rest) := by
  have hlength : behind.length ≤ (g ++ (t ++ behind)).length := by
    simp only [List.length_append]
    omega
  rw [readValue, first.skipGaps_append hg]
  split
  next heq =>
    -- No value starts with the closing bracket, so the array is not taken for empty.
    obtain ⟨c, more, rfl, -, hc⟩ := first.exists_cons
    exact absurd (List.cons.inj heq).1 hc
  next =>
    simp only [hitem, hitems, Option.bind_eq_bind, Option.bind_some, if_pos hlength]

/-- The items behind the first are read if one is and those behind it are. -/
theorem readItems_cons (hg : Gaps g) (first : Written item t)
    (hitem : readValue (t ++ behind) = some (item, behind))
    (hitems : readItems (skipGaps behind) = some (items, rest)) :
    readItems (',' :: (g ++ (t ++ behind))) = some (item :: items, rest) := by
  have hlength : behind.length ≤ (g ++ (t ++ behind)).length := by
    simp only [List.length_append]
    omega
  rw [readItems, first.skipGaps_append hg]
  simp only [hitem, hitems, Option.bind_eq_bind, Option.bind_some, if_pos hlength]

/-- An object is read if its first field is and those behind it are. -/
theorem readValue_object (hg : Gaps g) (first : Field field t)
    (hfield : readField (t ++ behind) = some (field, behind))
    (hfields : readFields (skipGaps behind) = some (fields, rest)) :
    readValue ('{' :: (g ++ (t ++ behind))) = some (object (field :: fields), rest) := by
  have hlength : behind.length ≤ (g ++ (t ++ behind)).length := by
    simp only [List.length_append]
    omega
  rw [readValue, first.skipGaps_append hg]
  split
  next heq =>
    obtain ⟨more, rfl⟩ := first.exists_cons
    exact absurd (List.cons.inj heq).1 (by decide)
  next =>
    simp only [hfield, hfields, Option.bind_eq_bind, Option.bind_some, if_pos hlength]

/-- The fields behind the first are read if one is and those behind it are. -/
theorem readFields_cons (hg : Gaps g) (first : Field field t)
    (hfield : readField (t ++ behind) = some (field, behind))
    (hfields : readFields (skipGaps behind) = some (fields, rest)) :
    readFields (',' :: (g ++ (t ++ behind))) = some (field :: fields, rest) := by
  have hlength : behind.length ≤ (g ++ (t ++ behind)).length := by
    simp only [List.length_append]
    omega
  rw [readFields, first.skipGaps_append hg]
  simp only [hfield, hfields, Option.bind_eq_bind, Option.bind_some, if_pos hlength]

/-- A field is read if its value is. -/
theorem readField_of_value {key name g' : Text} (quoted : IsString key name) (hg : Gaps g)
    (hg' : Gaps g') (value : Written v t)
    (hvalue : readValue (t ++ rest) = some (v, rest)) :
    readField (name ++ (g ++ ':' :: (g' ++ (t ++ rest)))) = some ((key, v), rest) := by
  have hcolon : skipGaps (g ++ ':' :: (g' ++ (t ++ rest))) = ':' :: (g' ++ (t ++ rest)) :=
    skipGaps_append hg rfl _
  have hlength : (g' ++ (t ++ rest)).length
      < (name ++ (g ++ ':' :: (g' ++ (t ++ rest)))).length := by
    simp only [List.length_append, List.length_cons]
    omega
  rw [readField, quoted.readString_append]
  simp only [hcolon, value.skipGaps_append hg', hvalue, Option.bind_eq_bind, Option.bind_some,
    if_pos hlength]

end

mutual

/-- A value is read where no digit follows it. -/
theorem Written.readValue_append {v : Json} {t rest : Text} (h : Written v t)
    (hrest : StopsAt isDigit rest) : readValue (t ++ rest) = some (v, rest) := by
  -- Within brackets no digit follows an item, whatever follows the brackets.
  match h with
  | .word listed => exact readValue_word listed
  | .number integer => exact readValue_number integer hrest
  | .string quoted => exact readValue_string quoted
  | .emptyArray inside =>
    have hskip := skipGaps_append (c := ']') inside rfl rest
    rw [List.cons_append, List.append_assoc, List.singleton_append, readValue, hskip]
    rfl
  | .array before first behind others =>
    obtain ⟨hstop, hskip⟩ :=
      behind_item (c := ']') ⟨rfl, rfl⟩ behind others.eq_nil_or_cons rest
    have hitem := first.readValue_append hstop
    have hitems := others.readItems_append rest
    rw [← hskip] at hitems
    simp only [List.cons_append, List.append_assoc, List.nil_append]
    exact readValue_array before first hitem hitems
  | .emptyObject inside =>
    have hskip := skipGaps_append (c := '}') inside rfl rest
    rw [List.cons_append, List.append_assoc, List.singleton_append, readValue, hskip]
    rfl
  | .object before first behind others =>
    obtain ⟨hstop, hskip⟩ :=
      behind_item (c := '}') ⟨rfl, rfl⟩ behind others.eq_nil_or_cons rest
    have hfield := first.readField_append hstop
    have hfields := others.readFields_append rest
    rw [← hskip] at hfields
    simp only [List.cons_append, List.append_assoc, List.nil_append]
    exact readValue_object before first hfield hfields

/-- The items behind the first are read up to the closing bracket. -/
theorem Items.readItems_append {items : List Json} {t : Text} (h : Items items t)
    (rest : Text) : readItems (t ++ ']' :: rest) = some (items, rest) := by
  match h with
  | .nil => rw [List.nil_append, readItems]
  | .cons before first behind others =>
    obtain ⟨hstop, hskip⟩ :=
      behind_item (c := ']') ⟨rfl, rfl⟩ behind others.eq_nil_or_cons rest
    have hitem := first.readValue_append hstop
    have hitems := others.readItems_append rest
    rw [← hskip] at hitems
    simp only [List.cons_append, List.append_assoc]
    exact readItems_cons before first hitem hitems

/-- A field is read where no digit follows it. -/
theorem Field.readField_append {field : Text × Json} {t rest : Text} (h : Field field t)
    (hrest : StopsAt isDigit rest) : readField (t ++ rest) = some (field, rest) := by
  match h with
  | .mk quoted before behind value =>
    have hvalue := value.readValue_append hrest
    simp only [List.cons_append, List.append_assoc]
    exact readField_of_value quoted before behind value hvalue

/-- The fields behind the first are read up to the closing bracket. -/
theorem Fields.readFields_append {fields : List (Text × Json)} {t : Text}
    (h : Fields fields t) (rest : Text) :
    readFields (t ++ '}' :: rest) = some (fields, rest) := by
  match h with
  | .nil => rw [List.nil_append, readFields]
  | .cons before first behind others =>
    obtain ⟨hstop, hskip⟩ :=
      behind_item (c := '}') ⟨rfl, rfl⟩ behind others.eq_nil_or_cons rest
    have hfield := first.readField_append hstop
    have hfields := others.readFields_append rest
    rw [← hskip] at hfields
    simp only [List.cons_append, List.append_assoc]
    exact readFields_cons before first hfield hfields

end

/-! ### From the reader to the grammar -/

/-- What is read is a string. -/
theorem exists_isString_of_readString {s t rest : Text} (h : readString t = some (s, rest)) :
    ∃ u, t = u ++ rest ∧ IsString s u := by
  unfold readString at h
  split at h
  next t =>
    obtain ⟨⟨units, behind⟩, hread, hs⟩ := Option.bind_eq_some_iff.mp h
    obtain ⟨s', hcodes, hs'⟩ := Option.map_eq_some_iff.mp hs
    obtain ⟨rfl, rfl⟩ := Prod.mk.inj hs'
    obtain ⟨body, rfl, hbody⟩ := Text.exists_body_of_readCodes hread
    exact ⟨'"' :: (body ++ ['"']), by simp, units, body, hbody, hcodes, rfl⟩
  next => exact absurd h (by simp)

/-- What is read that holds no others is a value. -/
theorem exists_written_of_readScalar {v : Json} {t rest : Text}
    (h : readScalar t = some (v, rest)) : ∃ u, t = u ++ rest ∧ Written v u := by
  unfold readScalar at h
  split at h
  next word hword =>
    obtain ⟨rfl, rfl⟩ := Prod.mk.inj (Option.some.inj h)
    have hfront : word.1.isPrefixOf t = true :=
      List.find?_some (p := fun w : Text × Json => w.1.isPrefixOf t) hword
    exact ⟨word.1, (List.prefix_iff_eq_append.mp (List.isPrefixOf_iff_prefix.mp hfront)).symm,
      .word (List.mem_of_find?_eq_some hword)⟩
  next =>
    split at h
    next =>
      obtain ⟨⟨s, behind⟩, hread, hs⟩ := Option.map_eq_some_iff.mp h
      obtain ⟨rfl, rfl⟩ := Prod.mk.inj hs
      obtain ⟨u, hu, hstring⟩ := exists_isString_of_readString hread
      exact ⟨u, hu, .string hstring⟩
    next =>
      obtain ⟨⟨n, behind⟩, hread, hn⟩ := Option.map_eq_some_iff.mp h
      obtain ⟨rfl, rfl⟩ := Prod.mk.inj hn
      obtain ⟨u, hu, hinteger⟩ := Text.exists_isInteger_of_readInt hread
      exact ⟨u, hu, .number hinteger⟩

/-- What is left of a first part and of those behind it, which both were read. -/
theorem exists_parts {α β γ : Type} {first : Option (α × Text)}
    {others : Text → Option (β × Text)} {make : α → β → γ} {made : γ} {t rest : Text}
    (h : (do
      let (part, behind) ← first
      if behind.length ≤ t.length then
        let (parts, rest) ← others (skipGaps behind)
        some (make part parts, rest)
      else none) = some (made, rest)) :
    ∃ part behind parts, first = some (part, behind) ∧ behind.length ≤ t.length ∧
      others (skipGaps behind) = some (parts, rest) ∧ made = make part parts := by
  obtain ⟨⟨part, behind⟩, hfirst, h⟩ := Option.bind_eq_some_iff.mp h
  dsimp only at h
  split at h
  next hle =>
    obtain ⟨⟨parts, after⟩, hothers, h⟩ := Option.bind_eq_some_iff.mp h
    obtain ⟨rfl, rfl⟩ := Prod.mk.inj (Option.some.inj h)
    exact ⟨part, behind, parts, hfirst, hle, hothers, rfl⟩
  next => exact absurd h (by simp)

/-- What is read of the texts that are shorter than a length is in the grammar. -/
structure SoundBelow (n : Nat) : Prop where
  value : ∀ {t v rest}, t.length < n → readValue t = some (v, rest) →
    ∃ u, t = u ++ rest ∧ Written v u
  items : ∀ {t items rest}, t.length < n → readItems t = some (items, rest) →
    ∃ u, t = u ++ ']' :: rest ∧ Items items u
  field : ∀ {t field rest}, t.length < n → readField t = some (field, rest) →
    ∃ u, t = u ++ rest ∧ Field field u
  fields : ∀ {t fields rest}, t.length < n → readFields t = some (fields, rest) →
    ∃ u, t = u ++ '}' :: rest ∧ Fields fields u

namespace SoundBelow

variable {c : Char} {t rest : Text}

/-- The texts that are shorter than a length are shorter than any greater one. -/
theorem mono {m n : Nat} (h : SoundBelow n) (hle : m ≤ n) : SoundBelow m where
  value ht := h.value (Nat.lt_of_lt_of_le ht hle)
  items ht := h.items (Nat.lt_of_lt_of_le ht hle)
  field ht := h.field (Nat.lt_of_lt_of_le ht hle)
  fields ht := h.fields (Nat.lt_of_lt_of_le ht hle)

/-- What was read between a bracket or comma and the closing bracket: a value, and the
items behind it. -/
theorem exists_items (below : SoundBelow (c :: t).length) {γ : Type}
    (make : Json → List Json → γ) {made : γ}
    (h : (do
      let (item, behind) ← readValue (skipGaps t)
      if behind.length ≤ t.length then
        let (items, rest) ← readItems (skipGaps behind)
        some (make item items, rest)
      else none) = some (made, rest)) :
    ∃ g item u g' items more, Gaps g ∧ Written item u ∧ Gaps g' ∧ Items items more ∧
      t = g ++ (u ++ (g' ++ (more ++ ']' :: rest))) ∧ made = make item items := by
  obtain ⟨item, behind, items, hitem, hle, hitems, hmade⟩ := exists_parts h
  obtain ⟨g, hg, hskip⟩ := exists_gaps t
  obtain ⟨u, hu, first⟩ := below.value (length_skipGaps_lt (Nat.le_refl _)) hitem
  obtain ⟨g', hg', hskip'⟩ := exists_gaps behind
  obtain ⟨more, hmore, others⟩ := below.items (length_skipGaps_lt hle) hitems
  refine ⟨g, item, u, g', items, more, hg, first, hg', others, ?_, hmade⟩
  rw [← hmore, hskip', ← hu, hskip]

/-- The same for fields. -/
theorem exists_fields (below : SoundBelow (c :: t).length) {γ : Type}
    (make : Text × Json → List (Text × Json) → γ) {made : γ}
    (h : (do
      let (field, behind) ← readField (skipGaps t)
      if behind.length ≤ t.length then
        let (fields, rest) ← readFields (skipGaps behind)
        some (make field fields, rest)
      else none) = some (made, rest)) :
    ∃ g field u g' fields more, Gaps g ∧ Field field u ∧ Gaps g' ∧ Fields fields more ∧
      t = g ++ (u ++ (g' ++ (more ++ '}' :: rest))) ∧ made = make field fields := by
  obtain ⟨field, behind, fields, hfield, hle, hfields, hmade⟩ := exists_parts h
  obtain ⟨g, hg, hskip⟩ := exists_gaps t
  obtain ⟨u, hu, first⟩ := below.field (length_skipGaps_lt (Nat.le_refl _)) hfield
  obtain ⟨g', hg', hskip'⟩ := exists_gaps behind
  obtain ⟨more, hmore, others⟩ := below.fields (length_skipGaps_lt hle) hfields
  refine ⟨g, field, u, g', fields, more, hg, first, hg', others, ?_, hmade⟩
  rw [← hmore, hskip', ← hu, hskip]

/-- A value that is read is one, if that holds of shorter texts. -/
theorem of_readValue {v : Json} (below : SoundBelow t.length)
    (h : readValue t = some (v, rest)) : ∃ u, t = u ++ rest ∧ Written v u := by
  -- The cases are those of the reader.
  rw [readValue.eq_def] at h
  split at h
  next t =>
    split at h
    next heq =>
      obtain ⟨rfl, rfl⟩ := Prod.mk.inj (Option.some.inj h)
      obtain ⟨g, hg, hskip⟩ := exists_gaps t
      -- The bracket closes at once.
      refine ⟨'[' :: (g ++ [']']), ?_, .emptyArray hg⟩
      rw [← hskip, heq, List.cons_append, List.append_assoc, List.singleton_append]
    next =>
      obtain ⟨g, item, u, g', items, more, hg, first, hg', others, rfl, rfl⟩ :=
        below.exists_items (fun item items => array (item :: items)) h
      exact ⟨_, by simp, .array hg first hg' others⟩
  next t =>
    split at h
    next heq =>
      obtain ⟨rfl, rfl⟩ := Prod.mk.inj (Option.some.inj h)
      obtain ⟨g, hg, hskip⟩ := exists_gaps t
      refine ⟨'{' :: (g ++ ['}']), ?_, .emptyObject hg⟩
      rw [← hskip, heq, List.cons_append, List.append_assoc, List.singleton_append]
    next =>
      obtain ⟨g, field, u, g', fields, more, hg, first, hg', others, rfl, rfl⟩ :=
        below.exists_fields (fun field fields => object (field :: fields)) h
      exact ⟨_, by simp, .object hg first hg' others⟩
  next => exact exists_written_of_readScalar h

/-- So are items. -/
theorem of_readItems {items : List Json} (below : SoundBelow t.length)
    (h : readItems t = some (items, rest)) : ∃ u, t = u ++ ']' :: rest ∧ Items items u := by
  rw [readItems.eq_def] at h
  split at h
  next =>
    obtain ⟨rfl, rfl⟩ := Prod.mk.inj (Option.some.inj h)
    exact ⟨[], rfl, .nil⟩
  next =>
    obtain ⟨g, item, u, g', items, more, hg, first, hg', others, rfl, rfl⟩ :=
      below.exists_items List.cons h
    exact ⟨_, by simp, .cons hg first hg' others⟩
  next => exact absurd h (by simp)

/-- So are fields. -/
theorem of_readFields {fields : List (Text × Json)} (below : SoundBelow t.length)
    (h : readFields t = some (fields, rest)) :
    ∃ u, t = u ++ '}' :: rest ∧ Fields fields u := by
  rw [readFields.eq_def] at h
  split at h
  next =>
    obtain ⟨rfl, rfl⟩ := Prod.mk.inj (Option.some.inj h)
    exact ⟨[], rfl, .nil⟩
  next =>
    obtain ⟨g, field, u, g', fields, more, hg, first, hg', others, rfl, rfl⟩ :=
      below.exists_fields List.cons h
    exact ⟨_, by simp, .cons hg first hg' others⟩
  next => exact absurd h (by simp)

/-- So is a field. -/
theorem of_readField {field : Text × Json} (below : SoundBelow t.length)
    (h : readField t = some (field, rest)) : ∃ u, t = u ++ rest ∧ Field field u := by
  rw [readField] at h
  obtain ⟨⟨key, behind⟩, hkey, h⟩ := Option.bind_eq_some_iff.mp h
  dsimp only at h
  split at h
  next colon heq =>
    split at h
    next hlt =>
      obtain ⟨⟨v, after⟩, hvalue, h⟩ := Option.bind_eq_some_iff.mp h
      obtain ⟨rfl, rfl⟩ := Prod.mk.inj (Option.some.inj h)
      -- The text is the name, white space, the colon, white space and the value.
      obtain ⟨name, hname, quoted⟩ := exists_isString_of_readString hkey
      obtain ⟨g, hg, hskip⟩ := exists_gaps behind
      obtain ⟨g', hg', hskip'⟩ := exists_gaps colon
      have hshorter : (skipGaps colon).length < t.length :=
        Nat.lt_of_le_of_lt (length_skipGaps_le colon) hlt
      obtain ⟨u, hu, value⟩ := below.value hshorter hvalue
      refine ⟨_, ?_, .mk quoted hg hg' value⟩
      rw [hname, ← hskip, heq, ← hskip', hu]
      simp
    next => exact absurd h (by simp)
  next => exact absurd h (by simp)

end SoundBelow

/-- What is read of any text is in the grammar. -/
theorem soundBelow (n : Nat) : SoundBelow n := by
  induction n with
  | zero => constructor <;> exact fun h => absurd h (Nat.not_lt_zero _)
  | succ n ih =>
      -- Behind the first character of such a text are only texts of fewer than `n`.
      have below {t : Text} (ht : t.length < n + 1) : SoundBelow t.length := ih.mono (by omega)
      exact {
        value := fun ht h => (below ht).of_readValue h
        items := fun ht h => (below ht).of_readItems h
        field := fun ht h => (below ht).of_readField h
        fields := fun ht h => (below ht).of_readFields h }

/-! ### Whole texts -/

/-- The texts that are read are those of the grammar, each for one value. -/
theorem read?_eq_some_iff {v : Json} {t : Text} : read? t = some v ↔ Document v t := by
  constructor
  · intro h
    obtain ⟨⟨w, behind⟩, hread, h⟩ := Option.bind_eq_some_iff.mp h
    dsimp only at h
    split at h
    next hend =>
      obtain rfl := Option.some.inj h
      obtain ⟨g, hg, hskip⟩ := exists_gaps t
      obtain ⟨g', hg', hskip'⟩ := exists_gaps behind
      -- The text is white space, what was read, and white space.
      obtain ⟨u, hu, value⟩ := (soundBelow _).value (Nat.lt_succ_self _) hread
      rw [hend, List.append_nil] at hskip'
      exact ⟨g, u, g', hg, value, hg', by rw [hskip', ← hu, hskip]⟩
    next => exact absurd h (by simp)
  · rintro ⟨g, u, g', hg, value, hg', rfl⟩
    -- White space goes on no numeral, so the value is read as far as it goes.
    have hstop : StopsAt isDigit g' := by
      have hnil : StopsAt isDigit ([] : Text) := fun _ hd => absurd hd (by simp)
      simpa only [List.append_nil] using stopsAt_gaps hg' hnil
    have hend : skipGaps g' = [] := List.dropWhile_eq_nil_iff.mpr hg'
    rw [read?, value.skipGaps_append hg, value.readValue_append hstop, Option.bind_some]
    exact if_pos hend

/-- A text is JSON for at most one value. -/
theorem Document.unique {v w : Json} {t : Text} (h : Document v t) (h' : Document w t) : v = w :=
  Option.some.inj ((read?_eq_some_iff.mpr h).symm.trans (read?_eq_some_iff.mpr h'))

/-- Not only what is printed is read, and not everything is. -/
example : ((read? "\t\x7b \"\\u0061\\/\" :[ -0,\n3\t] \x7d".toList).map fun v => v.pretty 0)
      = some ((object [("a/".toList, array [number 0, number 3])]).pretty 0) ∧
    (["[1, 2", "[1,]", "[,1]", "\x7b\"a\" 1\x7d", "01", "\"a\nb\"", "\"\\x41\"",
      "\"\\ud83d\"", "\"\\ude00\\ud83d\"", "nul", "1 2", ""].all
        fun t => (read? t.toList).isNone) = true := by
  decide +kernel

end MonkeyScan.Json
