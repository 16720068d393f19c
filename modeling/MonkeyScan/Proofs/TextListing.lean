import MonkeyScan.Listing
import MonkeyScan.Proofs.Escape
import MonkeyScan.Proofs.Row

/-!
# `MonkeyScan.Proofs.TextListing`: the text listing is read back

A row of the text listing gives the place, the name of the kind and, where there is one,
the value. The columns are padded to a width that long entries exceed, so the width does
not tell where an entry ends. The characters do: a place ends at the first character that
is no digit, a name at the first that is neither a capital nor an underscore, and a value
where its numeral or its closing quote is. A quote at its front tells a text from a
number, and where there is no value the row ends behind the name.

`Entry.ofRow?` reads a row in this way. Rows end at line feeds only, since a quoted text
escapes every other break, so the listing splits into the rows that it was made of.

* `Value.read?_shown`, `Kind.read?_name`, `Entry.readPlace?_append`,
  `Entry.readContent?_contentShown`: the parts of a row.
* `Entry.ofRow?_row`: a row.
* `Entry.exists_row_eq`: a row has one break, at its end.
* `Listing.text_readable`: the listing as a whole.
-/

set_option autoImplicit false

namespace MonkeyScan

open Scan (isDigit StopsAt takeWhile_run dropWhile_run)

/-! ### Parts of a row -/

/-- A text without the blanks at its front. -/
def Text.skipBlanks (t : Text) : Text :=
  t.dropWhile (· == ' ')

/-- Padding is skipped. -/
theorem Text.skipBlanks_replicate (k : Nat) {rest : Text} (hrest : StopsAt (· == ' ') rest) :
    Text.skipBlanks (List.replicate k ' ' ++ rest) = rest :=
  dropWhile_run (fun _ hd => beq_iff_eq.mpr (List.eq_of_mem_replicate hd)) hrest

/-- Reads a listed value from the front of a text: a quoted text if there is a quote, and
else a numeral. -/
def Value.read? (t : Text) : Option (Value × Text) :=
  if t.head? = some '\'' ∨ t.head? = some '"' then
    (Text.readQuoted t).map fun (content, rest) => (.text content, rest)
  else (Text.readInt t).map fun (n, rest) => (.number n, rest)

/-- A listed value is read back where no digit follows it. -/
theorem Value.read?_shown (v : Value) {rest : Text} (hrest : StopsAt isDigit rest) :
    read? (v.shown ++ rest) = some (v, rest) := by
  cases v with
  | number n =>
      -- A numeral starts with no quote.
      have hhead : ¬ ((Text.ofInt n ++ rest).head? = some '\''
          ∨ (Text.ofInt n ++ rest).head? = some '"') := by
        obtain ⟨c, more, h, hc⟩ := (Text.isInteger_ofInt n).exists_cons
        rw [h, List.cons_append, List.head?_cons, Option.some.injEq, Option.some.injEq]
        rcases hc with rfl | hc
        · decide
        · rintro (rfl | rfl) <;> exact absurd hc (by decide)
      rw [shown, read?, if_neg hhead, (Text.isInteger_ofInt n).readInt_append hrest]
      rfl
  | text t =>
      have hhead : (Text.quoted t ++ rest).head? = some '\''
          ∨ (Text.quoted t ++ rest).head? = some '"' :=
        (Text.quoteFor_eq t).imp (congrArg some) (congrArg some)
      rw [shown, read?, if_pos hhead, Text.readQuoted_quoted]
      rfl

/-- Whether `c` may be part of the name of a kind. -/
def Kind.isNameChar (c : Char) : Bool :=
  c.isUpper || c == '_'

/-- Reads the name of a kind from the front of a text. -/
def Kind.read? (t : Text) : Option (Kind × Text) :=
  (ofName? (String.ofList (t.takeWhile isNameChar))).map fun k => (k, t.dropWhile isNameChar)

/-- A name is written with capitals and underscores, and no two kinds have one name. -/
theorem Kind.name_spec (k : Kind) : k.name.toList ≠ [] ∧
    k.name.toList.all isNameChar = true ∧ k.name.toList.all Text.isPrintableAscii = true ∧
    ofName? k.name = some k := by
  -- Some thirty kinds: few enough to go through them all.
  cases k with
  | keyword k => cases k <;> decide
  | symbol s => cases s <;> decide
  | _ => decide

/-- The name of a kind is read back where nothing follows that could go on it. -/
theorem Kind.read?_name (k : Kind) {rest : Text} (hrest : StopsAt isNameChar rest) :
    read? (k.name.toList ++ rest) = some (k, rest) := by
  obtain ⟨-, hname, -, hkind⟩ := k.name_spec
  rw [List.all_eq_true] at hname
  rw [read?, takeWhile_run hname hrest, dropWhile_run hname hrest, String.ofList_toList, hkind]
  rfl

/-- Padding ends where a name starts. -/
theorem Kind.stopsAt_name (k : Kind) (rest : Text) :
    StopsAt (· == ' ') (k.name.toList ++ rest) := by
  obtain ⟨hne, hname, -⟩ := k.name_spec
  obtain ⟨c, more, h⟩ := List.exists_cons_of_ne_nil hne
  rw [h, List.all_cons, Bool.and_eq_true] at hname
  rw [h]
  refine Text.stopsAt_cons (p := (· == ' ')) (beq_eq_false_iff_ne.mpr ?_) _
  rintro rfl
  exact absurd hname.1 (by decide)

/-- Padding ends where a value starts. -/
theorem Value.stopsAt_shown (v : Value) (rest : Text) :
    StopsAt (· == ' ') (v.shown ++ rest) := by
  cases v with
  | number n =>
      obtain ⟨c, more, h, hc⟩ := (Text.isInteger_ofInt n).exists_cons
      rw [shown, h]
      refine Text.stopsAt_cons (p := (· == ' ')) (beq_eq_false_iff_ne.mpr ?_) _
      rintro rfl
      exact absurd hc (by decide)
  | text t =>
      refine Text.stopsAt_cons (p := (· == ' ')) (beq_eq_false_iff_ne.mpr ?_) _
      rcases Text.quoteFor_eq t with h | h <;> rw [h] <;> decide

/-- A line feed ends a row in which there was no break. -/
theorem Text.rows_append_newline {body : Text} (hbody : ∀ c ∈ body, isRowBreak c = false)
    (rest : Text) : rows (body ++ '\n' :: rest) = (body ++ ['\n']) :: rows rest := by
  induction body with
  | nil => rfl
  | cons c more ih =>
      obtain ⟨hc, hmore⟩ := List.forall_mem_cons.mp hbody
      rw [List.cons_append, rows_cons hc, ih hmore]
      rfl

namespace Listing

/-- Reads a line and a column from the front of a row. -/
def Entry.readPlace? (t : Text) : Option ((Int × Int) × Text) :=
  (Text.readInt t).bind fun (line, t) =>
    match t with
    | ':' :: t => (Text.readInt t).map fun (column, t) => ((line, column), t)
    | _ => none

/-- A line and a column are read back where no digit follows them. -/
theorem Entry.readPlace?_append (line column : Int) {rest : Text} (hrest : StopsAt isDigit rest) :
    readPlace? (Text.ofInt line ++ ([':'] ++ (Text.ofInt column ++ rest)))
      = some ((line, column), rest) := by
  have hline := (Text.isInteger_ofInt line).readInt_append
    (Text.stopsAt_cons (rfl : Scan.isDigit ':' = false) (Text.ofInt column ++ rest))
  have hcolumn := (Text.isInteger_ofInt column).readInt_append hrest
  rw [readPlace?, List.singleton_append, hline]
  simp only [Option.bind_some, hcolumn, Option.map_some]

/-! ### Rows -/

/-- What an entry says, as it stands behind the place: the name of the kind and, where there
is one, the value. -/
def Entry.contentShown (e : Entry) : Text :=
  match e.value with
  | none => e.kind.name.toList
  | some v => Text.padRight 10 e.kind.name.toList ++ ([' '] ++ v.shown)

/-- A row is the place, what the entry says, and a line feed. -/
theorem Entry.row_eq (e : Entry) :
    e.row = Text.padRight 8 (Text.ofInt e.line ++ ([':'] ++ Text.ofInt e.column))
      ++ ([' '] ++ (e.contentShown ++ ['\n'])) := by
  obtain ⟨kind, value, line, column⟩ := e
  cases value <;> simp only [row, contentShown, List.append_assoc]

/-- Padding and the blank behind it are blanks, and one at least. -/
theorem exists_padRight_append (width : Nat) (t : Text) :
    ∃ k, ∀ rest, Text.padRight width t ++ ([' '] ++ rest)
      = t ++ (List.replicate (k + 1) ' ' ++ rest) := by
  refine ⟨width - t.length, fun rest => ?_⟩
  simp only [Text.padRight, List.replicate_succ', List.append_assoc]

/-- A blank ends what no blank goes on. -/
theorem stopsAt_blanks {p : Char → Bool} (h : p ' ' = false) (k : Nat) (rest : Text) :
    StopsAt p (List.replicate (k + 1) ' ' ++ rest) :=
  Text.stopsAt_cons h _

/-- Reads what an entry says, up to the end of its row. Nothing but the line feed may follow
the name, or the value. -/
def Entry.readContent? (t : Text) : Option (Kind × Option Value) := do
  let (kind, t) ← Kind.read? t
  if t = ['\n'] then
    some (kind, none)
  else
    let (v, t) ← Value.read? (Text.skipBlanks t)
    if t = ['\n'] then some (kind, some v) else none

/-- Reads a row. -/
def Entry.ofRow? (row : Text) : Option Entry := do
  let ((line, column), t) ← readPlace? row
  let (kind, value) ← readContent? (Text.skipBlanks t)
  some ⟨kind, value, line, column⟩

/-- What an entry says is read back. -/
theorem Entry.readContent?_contentShown (e : Entry) :
    readContent? (e.contentShown ++ ['\n']) = some (e.kind, e.value) := by
  obtain ⟨kind, value, line, column⟩ := e
  cases value with
  | none =>
      have hname := Kind.read?_name kind (Text.stopsAt_cons (c := '\n') rfl [])
      rw [contentShown, readContent?, hname]
      simp only [Option.bind_eq_bind, Option.bind_some, if_pos]
  | some v =>
      obtain ⟨k, hpad⟩ := exists_padRight_append 10 kind.name.toList
      have hname := Kind.read?_name kind
        (stopsAt_blanks (p := Kind.isNameChar) rfl k (v.shown ++ ['\n']))
      have hvalue := Value.read?_shown v (Text.stopsAt_cons (c := '\n') rfl [])
      -- A blank follows the name, so the row does not end there.
      have hmore : List.replicate (k + 1) ' ' ++ (v.shown ++ ['\n']) ≠ ['\n'] := by
        intro h
        exact absurd (List.cons.inj h).1 (by decide)
      rw [contentShown, List.append_assoc, List.append_assoc, hpad, readContent?, hname]
      simp only [Option.bind_eq_bind, Option.bind_some, if_neg hmore,
        Text.skipBlanks_replicate _ (v.stopsAt_shown _), hvalue, if_pos]

/-- Padding ends where an entry says something. -/
theorem Entry.stopsAt_contentShown (e : Entry) (rest : Text) :
    StopsAt (· == ' ') (e.contentShown ++ rest) := by
  obtain ⟨kind, value, line, column⟩ := e
  cases value with
  | none => exact kind.stopsAt_name rest
  | some v =>
      show StopsAt _ ((kind.name.toList ++ List.replicate _ ' ' ++ _) ++ rest)
      rw [List.append_assoc, List.append_assoc]
      exact kind.stopsAt_name _

/-- A row is read back. -/
theorem Entry.ofRow?_row (e : Entry) : ofRow? e.row = some e := by
  obtain ⟨k, hpad⟩ :=
    exists_padRight_append 8 (Text.ofInt e.line ++ ([':'] ++ Text.ofInt e.column))
  have hplace := readPlace?_append e.line e.column
    (stopsAt_blanks (p := isDigit) rfl k (e.contentShown ++ ['\n']))
  -- The padding is skipped, however wide it is.
  rw [row_eq, hpad, List.append_assoc, List.append_assoc, ofRow?, hplace]
  simp only [Option.bind_eq_bind, Option.bind_some,
    Text.skipBlanks_replicate _ (e.stopsAt_contentShown _), readContent?_contentShown]

/-! ### The listing -/

/-- A numeral is on one row. -/
theorem isRowBreak_eq_false_of_mem_ofInt {n : Int} {c : Char} (hc : c ∈ Text.ofInt n) :
    Text.isRowBreak c = false :=
  Text.isRowBreak_eq_false_of_isPrintableAscii (Text.isPrintableAscii_of_mem_ofInt hc)

/-- Padding adds no break. -/
theorem isRowBreak_eq_false_of_mem_padRight {width : Nat} {t : Text}
    (ht : ∀ c ∈ t, Text.isRowBreak c = false) :
    ∀ c ∈ Text.padRight width t, Text.isRowBreak c = false := by
  intro c hc
  rcases List.mem_append.mp hc with hc | hc
  · exact ht c hc
  · exact List.eq_of_mem_replicate hc ▸ rfl

/-- What an entry says is on one row. -/
theorem Entry.isRowBreak_eq_false_of_mem_contentShown (e : Entry) :
    ∀ c ∈ e.contentShown, Text.isRowBreak c = false := by
  obtain ⟨kind, value, line, column⟩ := e
  have hname : ∀ c ∈ kind.name.toList, Text.isRowBreak c = false := by
    intro c hc
    exact Text.isRowBreak_eq_false_of_isPrintableAscii
      (List.all_eq_true.mp kind.name_spec.2.2.1 c hc)
  cases value with
  | none => exact hname
  | some v =>
      simp only [contentShown, List.forall_mem_append, List.forall_mem_singleton]
      refine ⟨isRowBreak_eq_false_of_mem_padRight hname, rfl, ?_⟩
      intro c hc
      cases v with
      | number n => exact isRowBreak_eq_false_of_mem_ofInt hc
      | text t => exact Text.isRowBreak_eq_false_of_mem_quoted hc

/-- The one break of a row is the line feed at its end. -/
theorem Entry.exists_row_eq (e : Entry) :
    ∃ body, e.row = body ++ ['\n'] ∧ ∀ c ∈ body, Text.isRowBreak c = false := by
  refine ⟨Text.padRight 8 (Text.ofInt e.line ++ ([':'] ++ Text.ofInt e.column))
    ++ ([' '] ++ e.contentShown), by simp only [row_eq, List.append_assoc], ?_⟩
  have hplace : ∀ c ∈ Text.ofInt e.line ++ ([':'] ++ Text.ofInt e.column),
      Text.isRowBreak c = false := by
    simp only [List.forall_mem_append, List.forall_mem_singleton]
    exact ⟨fun _ hc => isRowBreak_eq_false_of_mem_ofInt hc, rfl,
      fun _ hc => isRowBreak_eq_false_of_mem_ofInt hc⟩
  simp only [List.forall_mem_append, List.forall_mem_singleton]
  exact ⟨isRowBreak_eq_false_of_mem_padRight hplace, rfl,
    e.isRowBreak_eq_false_of_mem_contentShown⟩

/-- Entries that are listed split into their rows again, at every break and at line feeds. -/
theorem rows_flatMap_row (l : List Entry) :
    Text.rows (l.flatMap Entry.row) = l.map Entry.row ∧
      Text.lines (l.flatMap Entry.row) = l.map (·.row.dropLast) ++ [[]] := by
  induction l with
  | nil => exact ⟨rfl, rfl⟩
  | cons e more ih =>
      obtain ⟨body, hrow, hbody⟩ := e.exists_row_eq
      have hfeed : '\n' ∉ body := fun h => absurd (hbody _ h) (by decide)
      -- A row without its line feed is one line, and the line feed ends it.
      have hlines : Text.lines body = [body] := List.splitOn_eq_singleton hfeed
      obtain ⟨hrows, hlinesMore⟩ := ih
      constructor
      · rw [List.flatMap_cons, hrow, List.append_assoc, List.singleton_append,
          Text.rows_append_newline hbody, hrows, List.map_cons, hrow]
      · rw [List.flatMap_cons, List.map_cons, hrow, List.append_assoc, List.singleton_append,
          Text.lines_append_newline, hlines, hlinesMore, List.dropLast_concat]
        rfl

/-- Reads a text listing, row by row. -/
def readText? (t : Text) : Option (List Entry) :=
  (Text.rows t).mapM Entry.ofRow?

/-- What a text listing tells of the tokens that it was made of. -/
structure TextReadable (tokens : List Token) (source : Text) : Prop where
  /-- It ends with a line feed, or is empty if there are no tokens. -/
  ended : (text tokens source).getLast? = if tokens = [] then none else some '\n'
  /-- Cut at every break, it gives the row of each token. -/
  rows : (text tokens source).rows
    = tokens.map fun t => (entry (LineIndex.ofText source) t).row
  /-- So it does cut at line feeds, and nothing stands behind the last of them. -/
  lines : Text.lines (text tokens source)
    = (tokens.map fun t => (entry (LineIndex.ofText source) t).row.dropLast) ++ [[]]
  /-- Kind, value, line and column of each token are read back. -/
  readBack : readText? (text tokens source) = some (tokens.map fun t =>
    ⟨t.kind, t.value, ((LineIndex.ofText source).position t.offset).line,
      ((LineIndex.ofText source).position t.offset).column⟩)
  /-- So tokens that are listed alike, whatever their sources, have the same kinds, values,
  lines and columns. -/
  injective : ∀ (tokens' : List Token) (source' : Text),
    text tokens' source' = text tokens source → entries tokens' source' = entries tokens source

/-- Rows that are listed are read back. -/
theorem readText?_text (tokens : List Token) (source : Text) :
    readText? (text tokens source) = some (entries tokens source) := by
  rw [readText?, text, (rows_flatMap_row _).1]
  generalize entries tokens source = l
  induction l with
  | nil => rfl
  | cons e more ih =>
      rw [List.map_cons, List.mapM_cons, Entry.ofRow?_row, ih]
      rfl

/-- The text listing of tokens is read back. -/
theorem text_readable (tokens : List Token) (source : Text) : TextReadable tokens source := by
  obtain ⟨hrows, hlines⟩ := rows_flatMap_row (entries tokens source)
  constructor
  case ended =>
    rcases List.eq_nil_or_concat tokens with rfl | ⟨init, last, rfl⟩
    · rfl
    · -- The row of the last token is the end of the listing.
      obtain ⟨body, hrow, -⟩ := (entry (LineIndex.ofText source) last).exists_row_eq
      rw [if_neg (by simp), text, entries, List.concat_eq_append, List.map_append,
        List.flatMap_append, List.map_singleton, List.flatMap_singleton, hrow,
        ← List.append_assoc, List.getLast?_concat]
  case rows => rw [text, hrows, entries, List.map_map]; rfl
  case lines => rw [text, hlines, entries, List.map_map]; rfl
  case readBack => exact readText?_text tokens source
  case injective =>
    intro tokens' source' h
    -- What is read depends on the listing alone.
    have hread := readText?_text tokens' source'
    rw [h, readText?_text] at hread
    exact (Option.some.inj hread).symm

/-- A number, a text of the same digits, an empty text and no value are told apart. -/
example : readText? ("1:1      INTEGER    7\n1:3      STRING     '7'\n".toList
      ++ "1:7      STRING     ''\n1:9      EOF\n".toList)
    = some [⟨.integer, some (.number 7), 1, 1⟩, ⟨.string, some (.text ['7']), 1, 3⟩,
        ⟨.string, some (.text []), 1, 7⟩, ⟨.endOfInput, none, 1, 9⟩] := by
  decide +kernel

end Listing

end MonkeyScan
