import MonkeyScan.Proofs.Run

/-!
# `MonkeyScan.Proofs.KeepGoing`: going on after errors, and stopping

Two runs on the same files have the same settings, but one goes on after errors and the
other stops at the first. Unless the source has errors, the two runs are the same. If it
has, both end with code 1, and what they print to standard error is all the errors in the
order of their offsets, and the first of them.

The runs use different readings of the source, which `tokenize_eq` brings together. What
is printed to standard output and saved is not compared where there are errors: only one
of the runs has something to give out.

* `run_of_unreadable`, `run_of_clean`: what both runs are where the input cannot be used,
  and where the source has no error.
* `run_going_of_errors`, `run_strict_of_errors`: what each is where the source has errors.
* `run_keepGoing`: the two runs side by side.
-/

set_option autoImplicit false

namespace MonkeyScan

/-- An error as it is printed. -/
def ScanError.printed (e : ScanError) : Text :=
  e.report ++ ['\n']

section
variable {files : FileTree} {commandLine : List Text} {options : Options} {source : Text}
  {keepGoing : Bool}

/-- A run refuses an input that cannot be used, whether it goes on after errors or not. -/
theorem run_of_unreadable {failure : Failure}
    (hresolve : Resolves files.look commandLine { options with keepGoing := keepGoing })
    (hread : files.look.source options.input = .error failure) :
    run files commandLine = (Response.refuseInput options.input failure).carryOut files := by
  have hrespond : respondWith files.look { options with keepGoing := keepGoing }
      = .refuseInput options.input failure := respondWith_of_unreadable hread
  rw [hresolve.run_eq, hrespond]

/-- A run gives out the rendering of a source without errors, whether it goes on after
errors or not. -/
theorem run_of_clean
    (hresolve : Resolves files.look commandLine { options with keepGoing := keepGoing })
    (hread : files.look.source options.input = .ok source)
    (hclean : options.errors source = []) :
    run files commandLine
      = (Response.publish options.output (options.rendering source) []).carryOut files := by
  have hrespond : respondWith files.look { options with keepGoing := keepGoing }
      = .publish options.output (options.rendering source) (options.errors source) :=
    respondWith_of_published hread (Or.inr hclean)
  rw [hresolve.run_eq, hrespond, hclean]

/-- A run that goes on prints all errors of a source. -/
theorem run_going_of_errors {e : ScanError} {later : List ScanError}
    (hresolve : Resolves files.look commandLine { options with keepGoing := true })
    (hread : files.look.source options.input = .ok source)
    (herrors : options.errors source = e :: later)
    (htakes : ∀ p, options.output = some p → files.Takes p) :
    (run files commandLine).ending = .exit 1 ∧
      (run files commandLine).stderr = (e :: later).flatMap ScanError.printed := by
  have hrespond : respondWith files.look { options with keepGoing := true }
      = .publish options.output (options.rendering source) (options.errors source) :=
    respondWith_of_published hread (Or.inl rfl)
  obtain ⟨stdout, after, hpublish⟩ :=
    Response.carryOut_publish_of_takes htakes (options.rendering source) (e :: later)
  rw [hresolve.run_eq, hrespond, herrors, hpublish]
  exact ⟨rfl, rfl⟩

/-- A run that does not go on prints the first error of a source. -/
theorem run_strict_of_errors {e : ScanError} {later : List ScanError}
    (hresolve : Resolves files.look commandLine { options with keepGoing := false })
    (hread : files.look.source options.input = .ok source)
    (herrors : options.errors source = e :: later) :
    run files commandLine = ⟨.exit 1, [], e.printed, files⟩ := by
  have hrespond : respondWith files.look { options with keepGoing := false }
      = .refuse 1 e.report := respondWith_of_stopped hread rfl herrors
  rw [hresolve.run_eq, hrespond, (Response.quiet_refuse 1 e.report).carryOut]
  rfl

end

/-- Two runs on the same files differ in nothing but whether they go on after errors, and
what they save can be saved. They end the same way. They are the same, unless they end
with code 1; then the one prints all errors, in the order of their offsets, and the other
the first of them. A run that ends with code 0 prints no error, and one that ends with
code 2 gives nothing out. -/
theorem run_keepGoing (files : FileTree) (options : Options) (going strict : List Text)
    (hgoing : Resolves files.look going { options with keepGoing := true })
    (hstrict : Resolves files.look strict { options with keepGoing := false })
    (htakes : ∀ p, options.output = some p → files.Takes p) :
    let all := run files going
    let first := run files strict
    all.ending = first.ending ∧
    (all.ending ≠ .exit 1 → all = first) ∧
    (all.ending = .exit 0 → all.stderr = []) ∧
    (all.ending = .exit 1 → ∃ source e later,
      files.look.source options.input = .ok source ∧
      (tokenizeAll source options.input.toText).2 = e :: later ∧
      (e :: later).Pairwise (fun e e' => e.position.offset < e'.position.offset) ∧
      all.stderr = (e :: later).flatMap ScanError.printed ∧
      first.stderr = e.printed) ∧
    (all.ending = .exit 2 → all.stdout = [] ∧ all.files = files) := by
  intro all first
  cases hread : files.look.source options.input with
  | error failure =>
      have hall : all = _ := run_of_unreadable hgoing hread
      have hfirst : first = _ := run_of_unreadable hstrict hread
      have hsame : all = first := hall.trans hfirst.symm
      rw [(Response.quiet_refuseInput options.input failure).carryOut] at hall
      have hending : all.ending ≠ .exit 0 ∧ all.ending ≠ .exit 1 := by
        rcases Response.ending_refuseInput_cases options.input failure with h | h <;>
          simp [hall, h]
      refine ⟨congrArg Result.ending hsame, fun _ => hsame, fun h => absurd h hending.1,
        fun h => absurd h hending.2, fun _ => ?_⟩
      rw [hall]
      exact ⟨rfl, rfl⟩
  | ok source =>
      cases herrors : options.errors source with
      | nil =>
          have hall : all = _ := run_of_clean hgoing hread herrors
          have hfirst : first = _ := run_of_clean hstrict hread herrors
          have hsame : all = first := hall.trans hfirst.symm
          obtain ⟨stdout, after, hpublish⟩ :=
            Response.carryOut_publish_of_takes htakes (options.rendering source) []
          rw [hpublish] at hall
          have hending : all.ending = .exit 0 := congrArg Result.ending hall
          have hstderr : all.stderr = [] := congrArg Result.stderr hall
          have hother : all.ending ≠ .exit 1 ∧ all.ending ≠ .exit 2 := by simp [hending]
          exact ⟨congrArg Result.ending hsame, fun _ => hsame, fun _ => hstderr,
            fun h => absurd h hother.1, fun h => absurd h hother.2⟩
      | cons e later =>
          obtain ⟨hending, hstderr⟩ := run_going_of_errors hgoing hread herrors htakes
          have hfirst : first = _ := run_strict_of_errors hstrict hread herrors
          have hending : all.ending = .exit 1 := hending
          have hincrease : (e :: later).Pairwise
              fun e e' => e.position.offset < e'.position.offset :=
            herrors ▸ errors_increase source options.input.toText
          have hother : all.ending ≠ .exit 0 ∧ all.ending ≠ .exit 2 := by simp [hending]
          refine ⟨?_, fun h => absurd hending h, fun h => absurd h hother.1, fun _ => ?_,
            fun h => absurd h hother.2⟩
          · rw [hending, hfirst]
          · exact ⟨source, e, later, rfl, herrors, hincrease, hstderr,
              congrArg Result.stderr hfirst⟩

/-- The same input with two errors, and the same file to save to: both errors are printed by
the run that goes on, and the first by the run that does not. -/
theorem run_keepGoing_two_errors :
    let files : FileTree := ⟨[([['a']], .file (Text.Utf8.encode "99999999999 \"".toList))], []⟩
    let options : Options := ⟨⟨.here, [['a']]⟩, some ⟨.here, [['b']]⟩, some .json, false⟩
    let going := ["-kob".toList, "a".toList, "--format=json".toList]
    let strict := ["a".toList, "-ob".toList, "-fjson".toList]
    Resolves files.look going { options with keepGoing := true } ∧
    Resolves files.look strict { options with keepGoing := false } ∧
    (∀ p, options.output = some p → files.Takes p) ∧
    (run files going).ending = .exit 1 ∧ (run files strict).ending = .exit 1 ∧
    ∃ e e' : ScanError, (run files going).stderr = e.printed ++ e'.printed ∧
      (run files strict).stderr = e.printed := by
  intro files options going strict
  have hgoing : Resolves files.look going { options with keepGoing := true } := by
    decide +kernel
  have hstrict : Resolves files.look strict { options with keepGoing := false } := by
    decide +kernel
  have htakes : ∀ p, options.output = some p → files.Takes p := by
    rintro p ⟨⟩
    have hlocated : files.locate ⟨.here, [['b']]⟩ = .ok [['b']] := by decide +kernel
    exact FileTree.takes_of_located hlocated (by decide +kernel)
  have hending : (run files going).ending = .exit 1 := by decide +kernel
  obtain ⟨hsame, -, -, hfaulty, -⟩ :=
    run_keepGoing files options going strict hgoing hstrict htakes
  obtain ⟨source, e, later, hread, herrors, -, hall, hfirst⟩ := hfaulty hending
  have hsource : files.look.source options.input = .ok "99999999999 \"".toList := by
    decide +kernel
  obtain rfl := Except.ok.inj (hread.symm.trans hsource)
  have hlength : (e :: later).length = 2 := by
    rw [← herrors]
    decide +kernel
  obtain ⟨e', rfl⟩ : ∃ e', later = [e'] := List.length_eq_one_iff.mp (Nat.succ.inj hlength)
  refine ⟨hgoing, hstrict, htakes, hending, hsame ▸ hending, e, e', ?_, hfirst⟩
  rw [hall]
  simp

end MonkeyScan
