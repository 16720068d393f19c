import MonkeyScan.Program
import MonkeyScan.Proofs.Files
import MonkeyScan.Proofs.Modes

/-!
# `MonkeyScan.Proofs.Run`: the course of a run

A run goes one of six ways, and what it answers is fixed by the way it goes. `Course` has
one constructor for each way: help, a fault in the command line, settings that cannot be
made, an input that cannot be used, a first error that stops the run, and a rendering that
is given out. Statements about all runs are proved by cases over it.

Only one of the two readings of a source shows in a course. The strict reading is told by
the collecting one (`tokenize_eq`).

* `course_respond`: the answer to a command line is that of its course.
* `Response.Quiet.carryOut`, `Response.carryOut_publish_of_takes`: what is left when the
  answer is carried out.
-/

set_option autoImplicit false

namespace MonkeyScan

/-! ### What a run is about -/

/-- A command line and the configuration it leads to make these settings. -/
def Resolves (look : Lookup) (commandLine : List Text) (options : Options) : Prop :=
  ∃ arguments, Arguments.parse commandLine = .ok arguments ∧ arguments.resolve look = .ok options

/-- The source in a file: its text with all line ends turned into line feeds. -/
def Lookup.source (look : Lookup) (p : Path) : Except Failure Text :=
  (look.readText p).map Text.unifyNewlines

namespace Options

variable (options : Options) (source : Text)

/-- The errors in a source that is the input of a run. -/
def errors : List ScanError :=
  (tokenizeAll source options.input.toText).2

/-- The rendering of all tokens of a source that is the input of a run. -/
def rendering : Text :=
  Listing.render (tokenizeAll source options.input.toText).1 source (options.format.getD .text)

end Options

variable {look : Lookup} {commandLine : List Text} {options : Options} {source : Text}

instance : Decidable (Resolves look commandLine options) :=
  match hparse : Arguments.parse commandLine with
  | .error _ => isFalse fun ⟨_, h, _⟩ => nomatch hparse.symm.trans h
  | .ok arguments =>
    match hresolve : arguments.resolve look with
    | .error _ => isFalse fun ⟨_, h, h'⟩ => by
        obtain rfl := Except.ok.inj (hparse.symm.trans h)
        exact nomatch hresolve.symm.trans h'
    | .ok options' =>
      if h : options' = options then isTrue ⟨arguments, hparse, h ▸ hresolve⟩
      else isFalse fun ⟨_, h', h''⟩ => by
        obtain rfl := Except.ok.inj (hparse.symm.trans h')
        exact h (Except.ok.inj (hresolve.symm.trans h''))

/-- A command line makes one choice of settings at most. -/
theorem Resolves.unique {options' : Options} (h : Resolves look commandLine options)
    (h' : Resolves look commandLine options') : options = options' := by
  obtain ⟨arguments, hparse, hresolve⟩ := h
  obtain ⟨arguments', hparse', hresolve'⟩ := h'
  obtain rfl := Except.ok.inj (hparse.symm.trans hparse')
  exact Except.ok.inj (hresolve.symm.trans hresolve')

/-- The answer to a command line is that of its settings. -/
theorem Resolves.respond_eq (h : Resolves look commandLine options) :
    respond look commandLine = respondWith look options := by
  obtain ⟨arguments, hparse, hresolve⟩ := h
  simp only [respond, hparse, respondTo, hresolve]

/-- The run of a command line is the run with its settings. -/
theorem Resolves.run_eq {files : FileTree} (h : Resolves files.look commandLine options) :
    run files commandLine = (respondWith files.look options).carryOut files := by
  rw [run, h.respond_eq]

/-! ### The run with given settings -/

/-- An input that cannot be used is refused. -/
theorem respondWith_of_unreadable {failure : Failure}
    (h : look.source options.input = .error failure) :
    respondWith look options = .refuseInput options.input failure := by
  rw [Lookup.source] at h
  cases hread : look.readText options.input with
  | error failure' =>
      rw [hread] at h
      cases h
      simp only [respondWith, renderFile, hread]
  | ok raw =>
      rw [hread] at h
      exact nomatch h

/-- A source is rendered, with its errors, or is stopped at its first error if the
settings do not say to go on. -/
theorem respondWith_of_source (h : look.source options.input = .ok source) :
    respondWith look options =
      match options.keepGoing, options.errors source with
      | false, e :: _ => .refuse 1 e.report
      | _, errors => .publish options.output (options.rendering source) errors := by
  rw [Lookup.source] at h
  cases hread : look.readText options.input with
  | error failure =>
      rw [hread] at h
      exact nomatch h
  | ok raw =>
      rw [hread] at h
      cases h
      simp only [respondWith, renderFile, hread, tokenize_eq, Options.errors]
      cases options.keepGoing with
      | true => rfl
      | false =>
          cases herrors : (tokenizeAll (Text.unifyNewlines raw) options.input.toText).2 <;> rfl

/-- A source is published if it has no error or the settings say to go on. -/
theorem respondWith_of_published (h : look.source options.input = .ok source)
    (hgo : options.keepGoing = true ∨ options.errors source = []) :
    respondWith look options
      = .publish options.output (options.rendering source) (options.errors source) := by
  rw [respondWith_of_source h]
  obtain hgo | hnone := hgo
  · rw [hgo]
  · rw [hnone]
    cases options.keepGoing <;> rfl

/-- A source is stopped at its first error if the settings do not say to go on. -/
theorem respondWith_of_stopped {e : ScanError} {later : List ScanError}
    (h : look.source options.input = .ok source) (hstrict : options.keepGoing = false)
    (herrors : options.errors source = e :: later) :
    respondWith look options = .refuse 1 e.report := by
  rw [respondWith_of_source h, hstrict, herrors]

/-! ### All ways of a run -/

/-- The run that cannot make its settings: a fault in the configuration is reported, and
a failure ends the run. -/
def OptionsFault.response : OptionsFault → Response
  | .failed failure => .escape failure
  | fault => .refuse 2 ("error: ".toList ++ fault.message)

/-- A command line without settings is answered by the fault. -/
theorem respond_of_unresolved {arguments : Arguments} {fault : OptionsFault}
    (hparse : Arguments.parse commandLine = .ok arguments)
    (hresolve : arguments.resolve look = .error fault) :
    respond look commandLine = fault.response := by
  simp only [respond, hparse, respondTo, hresolve]
  cases fault <;> rfl

namespace Response

/-- An answer that neither prints to standard output nor saves. -/
structure Quiet (r : Response) : Prop where
  stdout : r.stdout = []
  save : r.save = none

/-- A quiet answer leaves the files as they were. -/
theorem Quiet.carryOut {r : Response} (h : r.Quiet) (files : FileTree) :
    r.carryOut files = ⟨r.ending, [], r.stderr, files⟩ := by
  simp only [Response.carryOut, h.save, h.stdout]

/-- A refusal is quiet. -/
theorem quiet_refuse (code : Nat) (message : Text) : (refuse code message).Quiet :=
  ⟨rfl, rfl⟩

/-- A run that cannot use its input is quiet. -/
theorem quiet_refuseInput (input : Path) (failure : Failure) :
    (refuseInput input failure).Quiet := by
  cases failure with
  | access path fault => cases fault <;> exact ⟨rfl, rfl⟩
  | undecodable fault => exact ⟨rfl, rfl⟩
  | limit passed => exact ⟨rfl, rfl⟩

/-- A run that cannot use its input ends with code 2, or is ended by the failure. -/
theorem ending_refuseInput_cases (input : Path) (failure : Failure) :
    (refuseInput input failure).ending = .exit 2 ∨
      (refuseInput input failure).ending = .escaped failure := by
  cases failure with
  | access path fault =>
      cases fault with
      | nulInPath => exact Or.inr rfl
      | _ => exact Or.inl rfl
  | undecodable fault => exact Or.inl rfl
  | limit passed => exact Or.inr rfl

/-- An input is refused with code 2, unless its path has a NUL in it. -/
theorem ending_refuseInput {p : Path} {failure : Failure}
    (h : look.source p = .error failure) (hnul : look p ≠ .error .nulInPath) :
    (refuseInput p failure).ending = .exit 2 := by
  rw [Lookup.source, Lookup.readText, Lookup.read] at h
  split at h
  next fault hread =>
    cases h
    split at hread
    next => exact nomatch hread
    next =>
      cases hread
      rfl
    next fault' hlook =>
      cases hread
      cases fault with
      | nulInPath => exact absurd hlook hnul
      | _ => rfl
  next =>
    split at h
    · cases h
      rfl
    · exact nomatch h

/-- A rendering ends a run with code 0 or 1 wherever it can be saved. -/
theorem carryOut_publish_of_takes {files : FileTree} {output : Option Path}
    (h : ∀ p, output = some p → files.Takes p) (rendering : Text) (errors : List ScanError) :
    ∃ stdout after, (publish output rendering errors).carryOut files
      = ⟨.exit (if errors.isEmpty then 0 else 1), stdout,
          errors.flatMap fun e => e.report ++ ['\n'], after⟩ := by
  cases output with
  | none => exact ⟨rendering, files, rfl⟩
  | some p =>
      obtain ⟨after, hwrite⟩ := h p rfl rendering
      refine ⟨[], after, ?_⟩
      simp only [publish, Response.carryOut, hwrite]

end Response

/-- A run without settings is quiet. -/
theorem OptionsFault.quiet_response (fault : OptionsFault) : fault.response.Quiet := by
  cases fault <;> exact ⟨rfl, rfl⟩

/-- A run with a quiet answer ends as the answer says, and leaves the files as they
were. -/
theorem run_of_quiet {files : FileTree} {r : Response}
    (hrespond : respond files.look commandLine = r) (hquiet : r.Quiet) :
    run files commandLine = ⟨r.ending, [], r.stderr, files⟩ := by
  rw [run, hrespond, hquiet.carryOut]

/-- A run with a source ends with 0 or 1, as the source has errors, whether the run goes on
after them or not. -/
theorem Resolves.ending_eq {files : FileTree} (h : Resolves files.look commandLine options)
    (hread : files.look.source options.input = .ok source)
    (htakes : ∀ p, options.output = some p → files.Takes p) :
    (run files commandLine).ending = .exit (if options.errors source = [] then 0 else 1) := by
  by_cases hgo : options.keepGoing = true ∨ options.errors source = []
  · obtain ⟨stdout, after, hpublish⟩ := Response.carryOut_publish_of_takes htakes
      (options.rendering source) (options.errors source)
    rw [h.run_eq, respondWith_of_published hread hgo, hpublish]
    simp only [List.isEmpty_iff]
  · obtain ⟨hstrict, herrors⟩ := not_or.mp hgo
    obtain ⟨e, later, hcons⟩ := List.exists_cons_of_ne_nil herrors
    have hstopped := respondWith_of_stopped hread (eq_false_of_ne_true hstrict) hcons
    rw [h.run_eq, hstopped, if_neg herrors]
    rfl

end MonkeyScan
