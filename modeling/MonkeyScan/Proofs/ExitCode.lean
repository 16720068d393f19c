import MonkeyScan.Proofs.Run

/-!
# `MonkeyScan.Proofs.ExitCode`: with which code a run ends

The arguments of a run are read, its input is written without a NUL, and what it saves can
be saved. Then the run ends with a code, unless its configuration makes it fail: the file
cannot be looked for, its bytes are not UTF-8, or what it holds passes a limit. These
failures are not caught, though bytes that are not UTF-8 are, where the input has them.

The code is 2 if the configuration is malformed, if the format it names is none, and if
the input cannot be used. Otherwise the code tells whether the input has errors.

* `ConfigFails.resolve_eq`, `ConfigRefused.resolve_eq`, `exists_resolve_eq`: what comes of
  the configuration.
* `run_exitCode`: how every run ends.
* `run_escaped_undecodable_config`: a run that ends without a code.
-/

set_option autoImplicit false

namespace MonkeyScan

/-! ### What comes of the configuration -/

/-- There is a configuration file, and it holds a text. -/
def ConfigHolds (look : Lookup) (p : Path) (t : Text) : Prop :=
  ∃ bytes, look p = .ok (.file bytes) ∧ Text.Utf8.decode bytes = .ok t

/-- There is a configuration file, and it gives a value for the output format. -/
def ConfigNames (look : Lookup) (p : Path) (value : Toml.Value) : Prop :=
  ∃ t config, ConfigHolds look p t ∧ Toml.read (Text.dropReturns t) = .ok config ∧
    Config.entry? config "output".toList "format".toList = some value

/-- The failures of a configuration file that end a run. -/
inductive ConfigFails (look : Lookup) (p : Path) : Failure → Prop where
  /-- The file cannot be looked for. -/
  | unreachable {fault : AccessFault} (unseen : look.isFile p = .error fault) :
      ConfigFails look p (.access p fault)
  | undecodable {bytes : List UInt8} {fault : Text.Utf8.Fault}
      (file : look p = .ok (.file bytes)) (invalid : Text.Utf8.decode bytes = .error fault) :
      ConfigFails look p (.undecodable fault)
  /-- A numeral is too long to be read, or values nest too deep. -/
  | tooLarge {t : Text} {passed : Toml.Limit} (holds : ConfigHolds look p t)
      (limit : Toml.read (Text.dropReturns t) = .error (.limit passed)) :
      ConfigFails look p (.limit passed)
  /-- The format is unknown and too large to be shown in a report. -/
  | unshown {value : Toml.Value} {passed : Toml.Limit} (names : ConfigNames look p value)
      (unknown : Config.formatNamed? value = none) (limit : value.shown = .error passed) :
      ConfigFails look p (.limit passed)

/-- The faults of a configuration file that are reported. -/
inductive ConfigRefused (look : Lookup) (p : Path) : Prop where
  | malformed {t : Text} {fault : Toml.Fault} (holds : ConfigHolds look p t)
      (faulty : Toml.read (Text.dropReturns t) = .error fault)
      (within : ∀ passed, fault ≠ .limit passed)
  | unknownFormat {value : Toml.Value} {shown : Text} (names : ConfigNames look p value)
      (unknown : Config.formatNamed? value = none) (shows : value.shown = .ok shown)

/-- The path that a run saves to. -/
def Arguments.outputPath (arguments : Arguments) : Option Path :=
  (arguments.output.value?.filter (!·.isEmpty)).map Path.ofText

section
variable {look : Lookup} {arguments : Arguments}

/-- A configuration file that holds a text is read from it. -/
theorem ConfigHolds.load_eq {p : Path} {t : Text} (h : ConfigHolds look p t) :
    Config.load look p = Config.read t := by
  obtain ⟨bytes, hfile, hdecode⟩ := h
  simp only [Config.load, Lookup.isFile, Lookup.readText, Lookup.read, hfile, hdecode]

/-- Where the configuration can be read, settings are made from it. -/
theorem resolve_of_config {t : Text} {config : Toml.Table}
    (hholds : ConfigHolds look arguments.configPath t)
    (hread : Toml.read (Text.dropReturns t) = .ok config) :
    arguments.resolve look = arguments.merge config := by
  simp only [Arguments.resolve, hholds.load_eq, Config.read, hread]

/-- An unknown format makes no settings. -/
theorem merge_of_unknown {config : Toml.Table} {value : Toml.Value}
    (hentry : Config.entry? config "output".toList "format".toList = some value)
    (hunknown : Config.formatNamed? value = none) :
    arguments.merge config = .error (match value.shown with
      | .ok shown => .unknownFormat shown
      | .error passed => .failed (.limit passed)) := by
  simp only [Arguments.merge, Config.format?, hentry, hunknown]
  cases value.shown <;> rfl

/-- A failure of the configuration is the failure of the settings. -/
theorem ConfigFails.resolve_eq {failure : Failure}
    (h : ConfigFails look arguments.configPath failure) :
    arguments.resolve look = .error (.failed failure) := by
  cases h with
  | unreachable unseen => simp only [Arguments.resolve, Config.load, unseen]
  | undecodable file invalid =>
      simp only [Arguments.resolve, Config.load, Lookup.isFile, Lookup.readText, Lookup.read,
        file, invalid]
  | tooLarge holds limit =>
      simp only [Arguments.resolve, holds.load_eq, Config.read, limit]
  | unshown names unknown limit =>
      obtain ⟨t, config, holds, hread, hentry⟩ := names
      rw [resolve_of_config holds hread, merge_of_unknown hentry unknown, limit]

/-- A reported fault of the configuration is no failure of the settings. -/
theorem ConfigRefused.resolve_eq (h : ConfigRefused look arguments.configPath) :
    ∃ fault, arguments.resolve look = .error fault ∧ ∀ failure, fault ≠ .failed failure := by
  cases h with
  | @malformed t fault holds faulty within =>
      refine ⟨.malformedConfig fault, ?_, fun _ => OptionsFault.noConfusion⟩
      simp only [Arguments.resolve, holds.load_eq, Config.read, faulty]
  | @unknownFormat value shown names unknown shows =>
      obtain ⟨t, config, holds, hread, hentry⟩ := names
      refine ⟨.unknownFormat shown, ?_, fun _ => OptionsFault.noConfusion⟩
      rw [resolve_of_config holds hread, merge_of_unknown hentry unknown, shows]

/-- A path that is one of a file leads to bytes. -/
theorem exists_bytes_of_isFile {p : Path} (h : look.isFile p = .ok true) :
    ∃ bytes, look p = .ok (.file bytes) := by
  rw [Lookup.isFile] at h
  split at h
  next bytes hfile => exact ⟨bytes, hfile⟩
  all_goals exact nomatch h

/-- Settings are made from a configuration that names no unknown format. -/
theorem exists_merge_eq {config : Toml.Table}
    (h : ∀ value, Config.entry? config "output".toList "format".toList = some value →
      Config.formatNamed? value ≠ none) :
    ∃ options, arguments.merge config = .ok options ∧
      options.input = Path.ofText arguments.input ∧ options.output = arguments.outputPath := by
  cases hentry : Config.entry? config "output".toList "format".toList with
  | none =>
      simp only [Arguments.merge, Config.format?, hentry]
      exact ⟨_, rfl, rfl, rfl⟩
  | some value =>
      obtain ⟨format, hformat⟩ := Option.ne_none_iff_exists'.mp (h value hentry)
      simp only [Arguments.merge, Config.format?, hentry, hformat]
      exact ⟨_, rfl, rfl, rfl⟩

/-- There are settings if the configuration neither fails nor is refused. -/
theorem exists_resolve_eq (hfails : ∀ failure, ¬ ConfigFails look arguments.configPath failure)
    (hrefused : ¬ ConfigRefused look arguments.configPath) :
    ∃ options, arguments.resolve look = .ok options ∧
      options.input = Path.ofText arguments.input ∧ options.output = arguments.outputPath := by
  cases hseen : look.isFile arguments.configPath with
  | error fault => exact absurd (.unreachable hseen) (hfails _)
  | ok isFile =>
      cases isFile with
      | false =>
          simp only [Arguments.resolve, Config.load, hseen]
          exact exists_merge_eq nofun
      | true =>
          obtain ⟨bytes, hfile⟩ := exists_bytes_of_isFile hseen
          cases hdecode : Text.Utf8.decode bytes with
          | error fault => exact absurd (.undecodable hfile hdecode) (hfails _)
          | ok t =>
              have hholds : ConfigHolds look arguments.configPath t := ⟨bytes, hfile, hdecode⟩
              cases hread : Toml.read (Text.dropReturns t) with
              | error fault =>
                  refine absurd (.malformed hholds hread fun passed hlimit => ?_) hrefused
                  exact hfails _ (.tooLarge hholds (hlimit ▸ hread))
              | ok config =>
                  rw [resolve_of_config hholds hread]
                  refine exists_merge_eq fun value hentry hunknown => ?_
                  have hnames : ConfigNames look arguments.configPath value :=
                    ⟨t, config, hholds, hread, hentry⟩
                  cases hshown : value.shown with
                  | ok shown => exact hrefused (.unknownFormat hnames hunknown hshown)
                  | error passed => exact hfails _ (.unshown hnames hunknown hshown)

end

/-! ### How a run ends -/

section
variable {files : FileTree} {commandLine : List Text} {arguments : Arguments} {failure : Failure}
  {source : Text} (hparse : Arguments.parse commandLine = .ok arguments)
include hparse

/-- A failure of the configuration ends the run. -/
theorem ending_of_configFails (h : ConfigFails files.look arguments.configPath failure) :
    (run files commandLine).ending = .escaped failure := by
  rw [run_of_quiet (respond_of_unresolved hparse h.resolve_eq) (OptionsFault.quiet_response _)]
  rfl

/-- A configuration with a fault that is reported is refused. -/
theorem ending_of_configRefused (h : ConfigRefused files.look arguments.configPath) :
    (run files commandLine).ending = .exit 2 := by
  obtain ⟨fault, hresolve, horderly⟩ := h.resolve_eq
  rw [run_of_quiet (respond_of_unresolved hparse hresolve) (OptionsFault.quiet_response _)]
  cases fault with
  | failed failure => exact absurd rfl (horderly failure)
  | _ => rfl

variable (hfails : ∀ failure, ¬ ConfigFails files.look arguments.configPath failure)
include hfails

/-- An input that cannot be used is refused, whatever the configuration says. -/
theorem ending_of_unreadable (hinput : '\x00' ∉ arguments.input)
    (hread : files.look.source (Path.ofText arguments.input) = .error failure) :
    (run files commandLine).ending = .exit 2 := by
  by_cases hrefused : ConfigRefused files.look arguments.configPath
  · exact ending_of_configRefused hparse hrefused
  · obtain ⟨options, hresolve, hoptions, -⟩ := exists_resolve_eq hfails hrefused
    have hresolves : Resolves files.look commandLine options := ⟨arguments, hparse, hresolve⟩
    rw [← hoptions] at hread
    have hrespond := hresolves.respond_eq.trans (respondWith_of_unreadable hread)
    rw [run_of_quiet hrespond (Response.quiet_refuseInput _ _)]
    refine Response.ending_refuseInput hread ?_
    rw [hoptions]
    exact FileTree.look_ne_nulInPath hinput

/-- A source that is read ends the run with 0 or 1, as it has errors. -/
theorem ending_of_source (hrefused : ¬ ConfigRefused files.look arguments.configPath)
    (houtput : ∀ p, arguments.outputPath = some p → files.Takes p)
    (hread : files.look.source (Path.ofText arguments.input) = .ok source) :
    (run files commandLine).ending = .exit
      (if (tokenizeAll source (Path.ofText arguments.input).toText).2 = [] then 0 else 1) := by
  obtain ⟨options, hresolve, hoptions, hpath⟩ := exists_resolve_eq hfails hrefused
  have hresolves : Resolves files.look commandLine options := ⟨arguments, hparse, hresolve⟩
  rw [← hoptions] at hread ⊢
  rw [← hpath] at houtput
  exact hresolves.ending_eq hread houtput

end

/-- The arguments of a run are read, its input is written without a NUL, and what it saves
can be saved. It ends with the failure of its configuration, if that fails, and else with
a code: 2 if the configuration is refused or the input cannot be used, and otherwise 0 or
1, as the input is without errors or has some. -/
theorem run_exitCode (files : FileTree) (commandLine : List Text) (arguments : Arguments)
    (hparse : Arguments.parse commandLine = .ok arguments)
    (hinput : '\x00' ∉ arguments.input)
    (houtput : ∀ p, arguments.outputPath = some p → files.Takes p) :
    let ending := (run files commandLine).ending
    let input := Path.ofText arguments.input
    let Fails := ConfigFails files.look arguments.configPath
    let Refused := ConfigRefused files.look arguments.configPath
    (∀ failure, ending = .escaped failure ↔ Fails failure) ∧
    (Refused → ending = .exit 2) ∧
    ((∀ failure, ¬ Fails failure) → ∀ failure, files.look.source input = .error failure →
      ending = .exit 2) ∧
    ((∀ failure, ¬ Fails failure) → ¬ Refused → ∀ source, files.look.source input = .ok source →
      ending = .exit (if (tokenizeAll source input.toText).2 = [] then 0 else 1)) := by
  intro ending input Fails Refused
  refine ⟨fun failure => ⟨fun hended => ?_, ending_of_configFails hparse⟩,
    ending_of_configRefused hparse,
    fun hfails failure => ending_of_unreadable hparse hfails hinput,
    fun hfails hrefused source => ending_of_source hparse hfails hrefused houtput⟩
  -- A run whose configuration does not fail ends with a code.
  by_contra hnot
  have hfails : ∀ failure, ¬ Fails failure := by
    intro failure' h
    have hended' : ending = .escaped failure' := ending_of_configFails hparse h
    obtain rfl : failure = failure' := Ending.escaped.inj (hended.symm.trans hended')
    exact hnot h
  have hcode : ∃ code, ending = .exit code := by
    by_cases hrefused : Refused
    · exact ⟨2, ending_of_configRefused hparse hrefused⟩
    · cases hread : files.look.source input with
      | error failure => exact ⟨2, ending_of_unreadable hparse hfails hinput hread⟩
      | ok source => exact ⟨_, ending_of_source hparse hfails hrefused houtput hread⟩
  obtain ⟨code, hcode⟩ := hcode
  exact nomatch hended.symm.trans hcode

/-- A run that is configured to render JSON and finds an error. -/
theorem run_exitCode_configured :
    let files : FileTree :=
      ⟨[([['a']], .file (Text.Utf8.encode "99999999999".toList)),
        ([Config.defaultName],
          .file (Text.Utf8.encode "[output]\nformat = \"json\"\n".toList))], []⟩
    let commandLine := ["a".toList, "-ob".toList]
    let arguments : Arguments := ⟨['a'], .value ['b'], .absent, false, .absent⟩
    Arguments.parse commandLine = .ok arguments ∧ '\x00' ∉ arguments.input ∧
    (∀ p, arguments.outputPath = some p → files.Takes p) ∧
    (∀ failure, ¬ ConfigFails files.look arguments.configPath failure) ∧
    ¬ ConfigRefused files.look arguments.configPath ∧
    (run files commandLine).ending = .exit 1 := by
  intro files commandLine arguments
  have hparse : Arguments.parse commandLine = .ok arguments := by decide +kernel
  have hinput : '\x00' ∉ arguments.input := by decide +kernel
  have htakes : ∀ p, arguments.outputPath = some p → files.Takes p := by
    intro p hp
    obtain rfl : p = ⟨.here, [['b']]⟩ := Option.some.inj (hp.symm.trans (by decide +kernel))
    have hlocated : files.locate ⟨.here, [['b']]⟩ = .ok [['b']] := by decide +kernel
    exact FileTree.takes_of_located hlocated (by decide +kernel)
  have hresolves : Resolves files.look commandLine
      ⟨⟨.here, [['a']]⟩, some ⟨.here, [['b']]⟩, some .json, false⟩ := by decide +kernel
  obtain ⟨arguments', hparse', hresolve⟩ := hresolves
  obtain rfl := Except.ok.inj (hparse.symm.trans hparse')
  have hfails : ∀ failure, ¬ ConfigFails files.look arguments.configPath failure := by
    intro failure h
    exact nomatch hresolve.symm.trans h.resolve_eq
  have hrefused : ¬ ConfigRefused files.look arguments.configPath := by
    intro h
    obtain ⟨fault, hfault, -⟩ := h.resolve_eq
    exact nomatch hresolve.symm.trans hfault
  have hread : files.look.source (Path.ofText arguments.input) = .ok "99999999999".toList := by
    decide +kernel
  obtain ⟨-, -, -, hcode⟩ := run_exitCode files commandLine arguments hparse hinput htakes
  refine ⟨hparse, hinput, htakes, hfails, hrefused, ?_⟩
  rw [hcode hfails hrefused _ hread]
  decide +kernel

/-- A configuration file that is not UTF-8 ends the run without a code. An input that is not
is refused. -/
theorem run_escaped_undecodable_config :
    let bad : Node := .file [0xff]
    let configured : FileTree := ⟨[([['a']], .file []), ([Config.defaultName], bad)], []⟩
    let unconfigured : FileTree := ⟨[([['a']], bad)], []⟩
    let arguments : Arguments := ⟨['a'], .absent, .absent, false, .absent⟩
    Arguments.parse [['a']] = .ok arguments ∧ '\x00' ∉ arguments.input ∧
    arguments.outputPath = none ∧
    (run configured [['a']]).ending = .escaped (.undecodable ⟨0, 1, 0xff, .startByte⟩) ∧
    (run unconfigured [['a']]).ending = .exit 2 := by
  decide +kernel

end MonkeyScan
