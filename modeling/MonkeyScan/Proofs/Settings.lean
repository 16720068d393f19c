import MonkeyScan.Proofs.ExitCode
import MonkeyScan.Proofs.Newline
import MonkeyScan.Proofs.Utf8

/-!
# `MonkeyScan.Proofs.Settings`: what settings are made of

Settings are made of the arguments, of one file, and of two entries in it. The file is the
one that is named, or else one beside the input. A path within the bounds of the system
that leads to no file counts as an empty table. Of a table, the format and whether to go on
are all that counts.

A format that is none of the two makes no settings, even if another is given. An entry that
is no boolean is like none for the other setting.

A text that is no document makes no settings either. Nor does one that is too large to be
read, though it be a document: one digit too many, in an entry that nothing asks for, is
enough.

* `FileTree.isFile_of_fits`: a path within bounds leads to a file or not.
* `Config.hasEntry_iff`, `Config.formatNamed?_eq_some_iff`: entries and formats in words.
* `Arguments.merge_error_iff`, `Arguments.chooses_of_merge`: what comes of a table.
* `Arguments.merge_congr`: tables that agree on the two entries are the same to a call.
* `Arguments.settles`: what settings are made of.
* `Arguments.resolve_too_many_digits`: a text that is too large.
-/

set_option autoImplicit false

namespace MonkeyScan

/-! ### Paths within bounds -/

namespace FileTree

variable {tree : FileTree} {p : Path}

/-- A path that is within the bounds of the system, in each name and as a whole. -/
structure Fits (p : Path) : Prop where
  names : ∀ name ∈ p.names, (Text.Utf8.encode name).length ≤ maxName
  whole : (Text.Utf8.encode p.toText).length ≤ maxPath

/-- A name within bounds is entered. -/
theorem exists_enter_eq {name : Text} (h : (Text.Utf8.encode name).length ≤ maxName)
    (location : Location) : ∃ next, enter location name = .ok next := by
  rw [enter, if_neg (Nat.not_lt.mpr h)]
  split <;> exact ⟨_, rfl⟩

/-- Following names within bounds fails only where there is no directory. -/
theorem follow_error_cases {location : Location} {names : List Text} {fault : AccessFault}
    (hnames : ∀ name ∈ names, (Text.Utf8.encode name).length ≤ maxName)
    (h : tree.follow location names = .error fault) :
    fault = .noSuchFile ∨ fault = .notDirectory := by
  induction names generalizing location with
  | nil => exact nomatch h
  | cons name more ih =>
      obtain ⟨hname, hmore⟩ := List.forall_mem_cons.mp hnames
      obtain ⟨next, hnext⟩ := exists_enter_eq hname location
      rw [follow, hnext] at h
      split at h
      · exact ih hmore h
      · exact Or.inr (Except.error.inj h).symm
      · exact Or.inl (Except.error.inj h).symm

/-- A path within bounds leads to a file, or it is known that it does not. -/
theorem isFile_of_fits (h : Fits p) (hfile : ∀ bytes, tree.look p ≠ .ok (.file bytes)) :
    tree.look.isFile p = .ok false := by
  rw [Lookup.isFile]
  cases hlocated : tree.locate p with
  | ok location =>
      rw [look_of_located hlocated] at hfile ⊢
      cases hnode : tree.node? location with
      | none => rfl
      | some node =>
          rw [hnode] at hfile
          cases node with
          | directory => rfl
          | file bytes => exact absurd rfl (hfile bytes)
  | error fault =>
      rw [look_of_lost hlocated]
      rw [locate, if_neg (Nat.not_lt.mpr h.whole)] at hlocated
      split at hlocated
      · rw [← Except.error.inj hlocated]
      · rcases follow_error_cases h.names hlocated with rfl | rfl <;> rfl

end FileTree

/-! ### Entries -/

namespace Config

variable {config config' : Toml.Table}

/-- A table of the configuration has a value under a key. -/
def HasEntry (config : Toml.Table) (table key : Text) (value : Toml.Value) : Prop :=
  ∃ fields, config.lookup table = some (.table fields) ∧ fields.lookup key = some value

/-- Where there is no such table, or something else in its place, there is no entry. -/
theorem hasEntry_iff {table key : Text} {value : Toml.Value} :
    HasEntry config table key value ↔ entry? config table key = some value := by
  rw [HasEntry, entry?]
  split
  next fields htable => simp [htable]
  next hnone =>
    simp only [reduceCtorEq, iff_false, not_exists, not_and]
    exact fun fields htable => absurd htable (hnone fields)

/-- The two tables have the same format, and the same boolean for whether to go on. -/
structure Agree (config config' : Toml.Table) : Prop where
  format : ∀ value, HasEntry config "output".toList "format".toList value ↔
    HasEntry config' "output".toList "format".toList value
  keepGoing : ∀ b, HasEntry config "lexer".toList "keep_going".toList (.boolean b) ↔
    HasEntry config' "lexer".toList "keep_going".toList (.boolean b)

/-- The format of a name is the one that is called so. -/
theorem ofName?_eq_some_iff {name : Text} {format : Format} :
    Format.ofName? name = some format ↔ name = format.name := by
  constructor
  · intro h
    have hname := List.find?_some (p := fun f : Format => f.name == name) h
    exact (beq_iff_eq.mp hname).symm
  · rintro rfl
    cases format <;> rfl

/-- A format is named by a string, which is what it is called. -/
theorem formatNamed?_eq_some_iff {value : Toml.Value} {format : Format} :
    formatNamed? value = some format ↔ value = .string format.name := by
  cases value with
  | string name => simp only [formatNamed?, ofName?_eq_some_iff, Toml.Value.string.injEq]
  | _ => simp [formatNamed?]

/-- There is no format, or one of the two, or something else. -/
theorem format?_cases (config : Toml.Table) :
    ((∀ value, ¬ HasEntry config "output".toList "format".toList value) ∧
      format? config = .ok none) ∨
    (∃ format : Format, HasEntry config "output".toList "format".toList (.string format.name) ∧
      format? config = .ok (some format)) ∨
    ∃ value fault, HasEntry config "output".toList "format".toList value ∧
      (∀ format : Format, value ≠ .string format.name) ∧ format? config = .error fault := by
  simp only [hasEntry_iff, format?]
  cases hentry : entry? config "output".toList "format".toList with
  | none => exact Or.inl ⟨fun value h => Option.some_ne_none value h.symm, rfl⟩
  | some value =>
      dsimp only
      cases hformat : formatNamed? value with
      | some format =>
          have hvalue := formatNamed?_eq_some_iff.mp hformat
          exact Or.inr (Or.inl ⟨format, by rw [hvalue], rfl⟩)
      | none =>
          have hother : ∀ format : Format, value ≠ .string format.name := by
            intro format hvalue
            rw [formatNamed?_eq_some_iff.mpr hvalue] at hformat
            exact Option.some_ne_none format hformat
          cases value.shown with
          | ok shown => exact Or.inr (Or.inr ⟨value, _, rfl, hother, rfl⟩)
          | error passed => exact Or.inr (Or.inr ⟨value, _, rfl, hother, rfl⟩)

/-- Whether to go on is configured by a boolean. -/
theorem keepGoing?_eq_some_iff {b : Bool} :
    keepGoing? config = some b ↔
      HasEntry config "lexer".toList "keep_going".toList (.boolean b) := by
  rw [hasEntry_iff, keepGoing?]
  split
  next b' hentry => rw [hentry, Option.some.injEq, Option.some.injEq, Toml.Value.boolean.injEq]
  next hnone =>
    simp only [reduceCtorEq, false_iff]
    exact hnone b

/-- What two tables agree on is all that is taken from them. -/
theorem Agree.format?_eq (h : Agree config config') : format? config = format? config' := by
  have hentry : entry? config "output".toList "format".toList
      = entry? config' "output".toList "format".toList := by
    refine Option.ext fun value => ?_
    rw [← hasEntry_iff, ← hasEntry_iff]
    exact h.format value
  rw [format?, format?, hentry]

/-- The same holds for the other setting. -/
theorem Agree.keepGoing?_eq (h : Agree config config') :
    keepGoing? config = keepGoing? config' := by
  refine Option.ext fun b => ?_
  rw [keepGoing?_eq_some_iff, keepGoing?_eq_some_iff]
  exact h.keepGoing b

end Config

/-! ### What comes of a table -/

namespace Arguments

variable {arguments : Arguments} {config config' : Toml.Table} {options : Options}

/-- The settings that arguments and a table should make. What is given wins. -/
structure Chooses (arguments : Arguments) (config : Toml.Table) (options : Options) : Prop where
  given : ∀ format, arguments.format = .value format → options.format = some format
  /-- A format that is given without a value leaves none. -/
  blank : arguments.format = .blank → options.format = none
  configured : arguments.format = .absent → ∀ format : Format,
    Config.HasEntry config "output".toList "format".toList (.string format.name) →
      options.format = some format
  unset : arguments.format = .absent →
    (∀ value, ¬ Config.HasEntry config "output".toList "format".toList value) →
      options.format = some .text
  switched : arguments.keepGoing = true → options.keepGoing = true
  goesOn : arguments.keepGoing = false → ∀ b,
    Config.HasEntry config "lexer".toList "keep_going".toList (.boolean b) → options.keepGoing = b
  stops : arguments.keepGoing = false →
    (∀ b, ¬ Config.HasEntry config "lexer".toList "keep_going".toList (.boolean b)) →
      options.keepGoing = false

/-- A table makes no settings if and only if it has a format that is none of the two. What
is given does not count. -/
theorem merge_error_iff :
    (∃ fault, arguments.merge config = .error fault) ↔
      ∃ value, Config.HasEntry config "output".toList "format".toList value ∧
        ∀ format : Format, value ≠ .string format.name := by
  rcases Config.format?_cases config with
    ⟨hnone, hformat⟩ | ⟨format, hentry, hformat⟩ | ⟨value, fault, hentry, hother, hformat⟩
  · simp only [merge, hformat, reduceCtorEq, exists_false, false_iff]
    rintro ⟨value, hentry, -⟩
    exact hnone value hentry
  · simp only [merge, hformat, reduceCtorEq, exists_false, false_iff]
    rintro ⟨value, hvalue, hother⟩
    rw [Config.hasEntry_iff] at hentry hvalue
    exact hother format (Option.some.inj (hvalue.symm.trans hentry))
  · simp only [merge, hformat]
    exact ⟨fun _ => ⟨value, hentry, hother⟩, fun _ => ⟨fault, rfl⟩⟩

/-- Settings are made of what is given and of the two entries. -/
theorem merge_eq_ok (h : arguments.merge config = .ok options) :
    ∃ format, Config.format? config = .ok format ∧
      options.format = chosenFormat arguments.format format ∧
      options.keepGoing = (arguments.keepGoing || (Config.keepGoing? config).getD false) := by
  rw [merge] at h
  split at h
  · cases h
  next format hformat =>
    obtain rfl := Except.ok.inj h
    exact ⟨format, hformat, rfl, rfl⟩

/-- The settings that are made are those that should be. -/
theorem chooses_of_merge (h : arguments.merge config = .ok options) :
    arguments.Chooses config options := by
  obtain ⟨format, hformat, hchosen, hkeep⟩ := merge_eq_ok h
  constructor
  case given =>
    intro given hgiven
    rw [hchosen, hgiven, chosenFormat]
  case blank =>
    intro hblank
    rw [hchosen, hblank, chosenFormat]
  case configured =>
    intro habsent named hnamed
    rw [hchosen, habsent, chosenFormat]
    rcases Config.format?_cases config with
      ⟨hnone, -⟩ | ⟨format', hentry, hformat'⟩ | ⟨_, _, _, _, hfault⟩
    · exact absurd hnamed (hnone _)
    · rw [Config.hasEntry_iff] at hnamed hentry
      have hvalue := Option.some.inj (hnamed.symm.trans hentry)
      have hsame : named = format' := by
        have hname := Config.ofName?_eq_some_iff.mpr (Toml.Value.string.inj hvalue).symm
        have hname' : Format.ofName? format'.name = some format' :=
          Config.ofName?_eq_some_iff.mpr rfl
        exact Option.some.inj (hname.symm.trans hname')
      rw [Except.ok.inj (hformat.symm.trans hformat'), hsame, Option.getD_some]
    · exact nomatch hformat.symm.trans hfault
  case unset =>
    intro habsent hnone
    rw [hchosen, habsent, chosenFormat]
    rcases Config.format?_cases config with
      ⟨-, hformat'⟩ | ⟨format', hentry, -⟩ | ⟨value, -, hentry, -⟩
    · rw [Except.ok.inj (hformat.symm.trans hformat'), Option.getD_none]
    · exact absurd hentry (hnone _)
    · exact absurd hentry (hnone _)
  case switched =>
    intro hswitched
    rw [hkeep, hswitched, Bool.true_or]
  case goesOn =>
    intro hswitched b hentry
    rw [hkeep, hswitched, Bool.false_or, Config.keepGoing?_eq_some_iff.mpr hentry,
      Option.getD_some]
  case stops =>
    intro hswitched hnone
    have hunset : Config.keepGoing? config = none := by
      rw [Option.eq_none_iff_forall_ne_some]
      exact fun b hb => hnone b (Config.keepGoing?_eq_some_iff.mp hb)
    rw [hkeep, hswitched, Bool.false_or, hunset, Option.getD_none]

/-- Tables that agree make the same settings, for all arguments. -/
theorem merge_congr (h : Config.Agree config config') (arguments : Arguments) :
    arguments.merge config = arguments.merge config' := by
  rw [merge, merge, h.format?_eq, h.keepGoing?_eq]

/-! ### What comes of a file -/

/-- The table that a configuration file at a path makes: none at all makes the empty one. -/
inductive Configures (files : FileTree) (p : Path) : Toml.Table → Prop where
  | absent (none : ∀ bytes, files.look p ≠ .ok (.file bytes)) : Configures files p []
  | read {t : Text} {config : Toml.Table} (holds : ConfigHolds files.look p t)
      (reads : Toml.read (Text.dropReturns t) = .ok config) : Configures files p config

/-- What settings are made of. -/
structure Settles (arguments : Arguments) (files : FileTree) : Prop where
  /-- The file is the one that is named, or else the one beside the input. -/
  named : ∀ name, arguments.config = .value name → name ≠ [] →
    arguments.configPath = Path.ofText name
  beside : (∀ name, arguments.config = .value name → name = []) →
    arguments.configPath = (Path.ofText arguments.input).parent.child "monkeylex.toml".toList
  /-- No other file counts. -/
  consulted : ∀ files' : FileTree,
    files'.look arguments.configPath = files.look arguments.configPath →
      arguments.resolve files'.look = arguments.resolve files.look
  /-- A text makes no settings if and only if it is not read, or names a format that is none
  of the two. -/
  fails_iff : ∀ t, ConfigHolds files.look arguments.configPath t →
    ((∃ fault, arguments.resolve files.look = .error fault) ↔
      (∃ fault, Toml.read (Text.dropReturns t) = .error fault) ∨
      ∃ config value, Toml.read (Text.dropReturns t) = .ok config ∧
        Config.HasEntry config "output".toList "format".toList value ∧
        ∀ format : Format, value ≠ .string format.name)
  /-- Why a text is not read is told, unless it is too large. -/
  malformed : ∀ t fault, ConfigHolds files.look arguments.configPath t →
    Toml.read (Text.dropReturns t) = .error fault → (∀ passed, fault ≠ .limit passed) →
      arguments.resolve files.look = .error (.malformedConfig fault)
  tooLarge : ∀ t passed, ConfigHolds files.look arguments.configPath t →
    Toml.read (Text.dropReturns t) = .error (.limit passed) →
      arguments.resolve files.look = .error (.failed (.limit passed))
  /-- No file at all makes settings. -/
  absent : (∀ bytes, files.look arguments.configPath ≠ .ok (.file bytes)) →
    ∃ options, arguments.resolve files.look = .ok options
  settled : ∀ config options, Configures files arguments.configPath config →
    arguments.resolve files.look = .ok options → arguments.Chooses config options
  /-- Nothing of a table counts but the two entries. -/
  same : ∀ config config' files', Configures files arguments.configPath config →
    Configures files' arguments.configPath config' → Config.Agree config config' →
      arguments.resolve files.look = arguments.resolve files'.look

section
variable {look : Lookup} {t : Text} {fault : Toml.Fault}

/-- A text that is no document is refused with the reason. -/
theorem resolve_of_malformed (hholds : ConfigHolds look arguments.configPath t)
    (hread : Toml.read (Text.dropReturns t) = .error fault)
    (hlimit : ∀ passed, fault ≠ .limit passed) :
    arguments.resolve look = .error (.malformedConfig fault) := by
  simp only [resolve, hholds.load_eq, Config.read, hread]

/-- A text that is not read makes no settings. -/
theorem exists_resolve_error (hholds : ConfigHolds look arguments.configPath t)
    (hread : Toml.read (Text.dropReturns t) = .error fault) :
    ∃ fault', arguments.resolve look = .error fault' := by
  by_cases hlimit : ∃ passed, fault = .limit passed
  · obtain ⟨passed, rfl⟩ := hlimit
    exact ⟨_, (ConfigFails.tooLarge hholds hread).resolve_eq⟩
  · exact ⟨_, resolve_of_malformed hholds hread fun passed heq => hlimit ⟨passed, heq⟩⟩

end

section
variable {files : FileTree} (hfits : FileTree.Fits arguments.configPath)
include hfits

/-- Settings are made of the table that is configured. -/
theorem resolve_eq_merge (h : Configures files arguments.configPath config) :
    arguments.resolve files.look = arguments.merge config := by
  cases h with
  | absent none =>
      simp only [resolve, Config.load, FileTree.isFile_of_fits hfits none]
  | read holds reads => exact resolve_of_config holds reads

/-- Settings are made of the arguments, of one file, and of two entries in it. -/
theorem settles (files : FileTree) : arguments.Settles files := by
  constructor
  case named =>
    intro name hname hne
    rw [configPath, hname, Setting.value?, Option.filter_some_pos (by simpa using hne)]
    rfl
  case beside =>
    intro hnone
    have hfilter : arguments.config.value?.filter (!·.isEmpty) = none := by
      cases hconfig : arguments.config with
      | value name =>
          rw [hnone name hconfig]
          rfl
      | _ => rfl
    rw [configPath, hfilter]
    rfl
  case consulted =>
    intro files' hlook
    simp only [resolve, Config.load, Lookup.isFile, Lookup.readText, Lookup.read, hlook]
  case fails_iff =>
    intro t hholds
    cases hread : Toml.read (Text.dropReturns t) with
    | error fault => exact iff_of_true (exists_resolve_error hholds hread) (Or.inl ⟨fault, rfl⟩)
    | ok config =>
        rw [resolve_of_config hholds hread, merge_error_iff]
        simp
  case malformed =>
    intro t fault hholds hread hlimit
    exact resolve_of_malformed hholds hread hlimit
  case tooLarge =>
    intro t passed hholds hread
    exact (ConfigFails.tooLarge hholds hread).resolve_eq
  case absent =>
    intro hnone
    rw [resolve_eq_merge hfits (.absent hnone)]
    have hmerge : ¬ ∃ fault, arguments.merge [] = .error fault := by
      rw [merge_error_iff]
      rintro ⟨value, ⟨fields, htable, -⟩, -⟩
      exact Option.some_ne_none _ htable.symm
    cases hoptions : arguments.merge [] with
    | ok options => exact ⟨options, rfl⟩
    | error fault => exact absurd ⟨fault, hoptions⟩ hmerge
  case settled =>
    intro config options hconfig hresolve
    rw [resolve_eq_merge hfits hconfig] at hresolve
    exact chooses_of_merge hresolve
  case same =>
    intro config config' files' hconfig hconfig' hagree
    rw [resolve_eq_merge hfits hconfig, resolve_eq_merge hfits hconfig',
      merge_congr hagree]

end

/-- A configuration beside an input, with both entries, one of which is overridden. -/
theorem settles_configured :
    let files : FileTree :=
      ⟨[([['d']], .directory), ([['d'], "monkeylex.toml".toList],
        .file (Text.Utf8.encode
          "output.format = \"json\"\nlexer.keep_going = true\n".toList))], []⟩
    let arguments : Arguments := ⟨"d/p".toList, .absent, .value .text, false, .absent⟩
    FileTree.Fits arguments.configPath ∧
    (arguments.resolve files.look).toOption
      = some ⟨⟨.here, [['d'], ['p']]⟩, none, some .text, true⟩ ∧
    arguments.Settles files := by
  intro files arguments
  have hfits : FileTree.Fits arguments.configPath := ⟨by decide +kernel, by decide +kernel⟩
  exact ⟨hfits, by decide +kernel, settles hfits files⟩

end Arguments

/-! ### A text that is too large

A text of one entry is followed through the parts of the reader, for any number of digits:
it is too long to be evaluated. -/

namespace Toml

/-- The numeral of `n` ones. -/
def ones (n : Nat) : Text := List.replicate n '1'

/-- The integer that `n` ones are, unless there are too many of them. -/
def onesValue (n : Nat) : Except Fault Value :=
  if n > maxDigits then .error (.limit (.digitsToRead n))
  else .ok (.integer (Nat.ofDigitChars 10 (ones n) 0))

/-- Behind a digit, ones are read to the last. -/
theorem moreDigits_ones (n : Nat) : moreDigits Char.isDigit (ones n) = (ones n, []) := by
  induction n with
  | zero => rfl
  | succ n ih =>
      rw [ones, List.replicate_succ, ← ones]
      rw [moreDigits.eq_def]
      split
      next heq => exact absurd (List.cons.inj heq).1 (by decide)
      next heq =>
        obtain ⟨rfl, rfl⟩ := List.cons.inj heq
        rw [ih]
        rfl
      next heq => exact nomatch heq

/-- Ones are a decimal integer, and are refused if there are too many of them. -/
theorem decimal?_ones (n : Nat) :
    decimal? (ones (n + 1)) = some ((onesValue (n + 1)).map (·, [])) := by
  have hwhole : wholePart? (ones (n + 1)) = some (ones (n + 1), []) := by
    show digits? Char.isDigit ('1' :: ones n) = _
    rw [digits?, if_pos (by decide), moreDigits_ones]
    rfl
  have hsign : sign (ones (n + 1)) = (false, ones (n + 1)) := rfl
  have hlength : (ones (n + 1)).length = n + 1 := List.length_replicate
  rw [decimal?, hsign]
  simp only [hwhole, Option.bind_eq_bind, Option.bind_some, fraction, exponent?, hlength]
  rw [List.isEmpty_nil, Option.isNone_none, Bool.and_self, if_pos rfl, onesValue]
  by_cases hlong : n + 1 > maxDigits
  · rw [if_pos hlong, if_pos hlong]
    rfl
  · rw [if_neg hlong, if_neg hlong]
    rfl

/-- Five ones or more are not the start of a date or a time, so this is all that they can be
as a value. -/
theorem scalar_ones (n : Nat) : scalar (ones (n + 5)) = (onesValue (n + 5)).map (·, []) := by
  have hstring : string? (ones (n + 5)) = none := rfl
  have hcalendar : calendarValue? (ones (n + 5)) = none := rfl
  have hmarked : markedInteger? (ones (n + 5)) = none := rfl
  have hones : ones (n + 5) = '1' :: ones (n + 4) := rfl
  rw [scalar, hstring, hcalendar, hmarked, decimal?_ones (n + 4)]
  · intro rest heq
    exact absurd (List.cons.inj heq).1 (by decide)
  · intro rest heq
    exact absurd (List.cons.inj heq).1 (by decide)

/-- A key with that value is a statement, unless the value is refused. -/
theorem statement_ones (n : Nat) : statement ('a' :: ' ' :: '=' :: ' ' :: ones (n + 5)) =
    (onesValue (n + 5)).map (.assign [['a']] ·, []) := by
  have hkey : key ('a' :: ' ' :: '=' :: ' ' :: ones (n + 5))
      = .ok ([['a']], '=' :: ' ' :: ones (n + 5)) := rfl
  have hequals : skipEquals ('=' :: ' ' :: ones (n + 5)) = .ok (ones (n + 5)) := rfl
  have hvalue : value readingRoom (2 * (ones (n + 5)).length + 2) (ones (n + 5))
      = scalar (ones (n + 5)) := rfl
  have hbare : isBareKeyChar 'a' = true := rfl
  simp only [statement, Char.isValue, Char.reduceEq, List.cons.injEq, false_and, imp_self,
    implies_true, hbare, Char.reduceBEq, Bool.or_false, if_true, bind, Except.bind, hkey, hequals,
    hvalue, scalar_ones]
  cases onesValue (n + 5) <;> rfl

/-- It is the only statement of its text. -/
theorem statements_ones (n : Nat) : statements ('a' :: ' ' :: '=' :: ' ' :: ones (n + 5)) =
    match onesValue (n + 5) with
    | .ok item => ([.assign [['a']] item], none)
    | .error fault => ([], some fault) := by
  have hskip : skipSpaces ('a' :: ' ' :: '=' :: ' ' :: ones (n + 5))
      = 'a' :: ' ' :: '=' :: ' ' :: ones (n + 5) := rfl
  simp only [statements, statementsWithin, Char.isValue, hskip, List.cons.injEq, Char.reduceEq,
    false_and, imp_self, implies_true, statement_ones]
  cases onesValue (n + 5) <;> rfl

/-- So the text is the document of one entry, or is refused for its digits. -/
theorem read_ones (n : Nat) : read ('a' :: ' ' :: '=' :: ' ' :: ones (n + 5)) =
    (onesValue (n + 5)).map fun item => [(['a'], item)] := by
  rw [read, statements_ones]
  cases onesValue (n + 5) <;> rfl

end Toml

namespace Arguments

/-- An entry that nothing asks for, and that has one digit more than another. -/
theorem resolve_too_many_digits :
    let text : Nat → Text := fun n => "a = ".toList ++ List.replicate n '1'
    let files : Nat → FileTree := fun n =>
      ⟨[([Config.defaultName], .file (Text.Utf8.encode (text n)))], []⟩
    let arguments : Arguments := ⟨['p'], .absent, .absent, false, .absent⟩
    ConfigHolds (files 4301).look arguments.configPath (text 4301) ∧
    arguments.resolve (files 4300).look = .ok ⟨⟨.here, [['p']]⟩, none, some .text, false⟩ ∧
    arguments.resolve (files 4301).look = .error (.failed (.limit (.digitsToRead 4301))) := by
  intro text files arguments
  have hholds : ∀ n, ConfigHolds (files n).look arguments.configPath (text n) := by
    intro n
    exact ⟨Text.Utf8.encode (text n), rfl, Text.Utf8.decode_encode _⟩
  have hread : ∀ n, Toml.read (Text.dropReturns (text (n + 5)))
      = (Toml.onesValue (n + 5)).map fun item => [(['a'], item)] := by
    intro n
    have hreturn : '\r' ∉ text (n + 5) := by simp [text]
    rw [Text.dropReturns_of_not_mem hreturn]
    exact Toml.read_ones n
  refine ⟨hholds 4301, ?_, ?_⟩
  · rw [resolve_of_config (hholds 4300) (hread 4295)]
    rfl
  · exact (ConfigFails.tooLarge (hholds 4301) (hread 4296)).resolve_eq

end Arguments

end MonkeyScan
