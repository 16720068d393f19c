import MonkeyScan.Options
import MonkeyScan.Tokenize

/-!
# `MonkeyScan.Program`: one run from arguments to output

A run reads the configuration and the input, scans the input, and reports
errors and tokens. Whatever it reads comes through a look-up, so a run is a
function: `respond` gives what is to be printed and saved. `run` is a run on
a file tree, with the saving done.

Exit codes are 0 for a source without errors, 1 for one with errors, and 2
where the run does not get that far.
-/

set_option autoImplicit false

namespace MonkeyScan

/-! ### The input -/

/-- Why a file is not rendered. -/
inductive RenderFault where
  | scan (e : ScanError)
  | failed (failure : Failure)

/-- The rendering of a file, and the errors in it. Unless the settings say to
go on, the first error takes the place of the rendering. -/
def renderFile (look : Lookup) (options : Options) : Except RenderFault (Text × List ScanError) :=
  match look.readText options.input with
  | .error failure => .error (.failed failure)
  | .ok raw =>
    let source := Text.unifyNewlines raw
    let filename := options.input.toText
    let format := options.format.getD .text
    if options.keepGoing then
      let (tokens, errors) := tokenizeAll source filename
      .ok (Listing.render tokens source format, errors)
    else
      match tokenize source filename with
      | .error e => .error (.scan e)
      | .ok tokens => .ok (Listing.render tokens source format, [])

/-! ### The run -/

/-- How a run ends: with an exit code, by the command line alone, also with a
code, or by a failure that is not reported in an orderly way. -/
inductive Ending where
  | exit (code : Nat)
  | commandLine (code : Nat)
  | escaped (failure : Failure)
  deriving DecidableEq, Repr

/-- What a run does: how it ends, what it prints, and what it saves. -/
structure Response where
  ending : Ending
  stdout : Text
  stderr : Text
  save : Option (Path × Text)
  deriving DecidableEq, Repr

namespace Response

/-- The run that prints a message and ends with a code. -/
def refuse (code : Nat) (message : Text) : Response :=
  ⟨.exit code, [], message ++ ['\n'], none⟩

/-- The run that a failure ends. -/
def escape (failure : Failure) : Response :=
  ⟨.escaped failure, [], [], none⟩

/-- The run that cannot use its input. A path with a NUL in it is no path, and
is not reported in an orderly way. -/
def refuseInput (input : Path) (failure : Failure) : Response :=
  let report (reason : Text) : Response :=
    refuse 2 ("error: cannot read ".toList ++ input.toText ++ [':', ' '] ++ reason)
  match failure with
  | .access _ .nulInPath => escape failure
  | .access _ fault => report fault.reason
  | .undecodable fault => report fault.message
  | .limit _ => escape failure

/-- The run that has a rendering and the errors in it. -/
def publish (output : Option Path) (rendering : Text) (errors : List ScanError) : Response :=
  let stderr := errors.flatMap fun e => e.report ++ ['\n']
  let ending := Ending.exit (if errors.isEmpty then 0 else 1)
  match output with
  | none => ⟨ending, rendering, stderr, none⟩
  | some p => ⟨ending, [], stderr, some (p, rendering)⟩

end Response

/-- The run with given settings. -/
def respondWith (look : Lookup) (options : Options) : Response :=
  match renderFile look options with
  | .error (.failed failure) => .refuseInput options.input failure
  | .error (.scan e) => .refuse 1 e.report
  | .ok (rendering, errors) => .publish options.output rendering errors

/-- The run with given arguments. -/
def respondTo (look : Lookup) (arguments : Arguments) : Response :=
  match arguments.resolve look with
  | .error (.failed failure) => .escape failure
  | .error fault => .refuse 2 ("error: ".toList ++ fault.message)
  | .ok options => respondWith look options

/-- The run on a command line. -/
def respond (look : Lookup) (commandLine : List Text) : Response :=
  match Arguments.parse commandLine with
  | .error .help => ⟨.commandLine 0, helpText, [], none⟩
  | .error (.fault f) => ⟨.commandLine 2, [], f.report, none⟩
  | .ok arguments => respondTo look arguments

/-! ### Runs on a file tree -/

/-- What is left of a run: how it ended, what it printed, and the files. -/
structure Result where
  ending : Ending
  stdout : Text
  stderr : Text
  files : FileTree
  deriving DecidableEq, Repr

/-- Saves what a response asks to. If that fails, the failure is the end of the
run. -/
def Response.carryOut (r : Response) (files : FileTree) : Result :=
  match r.save with
  | none => ⟨r.ending, r.stdout, r.stderr, files⟩
  | some (p, t) =>
    match files.write p t with
    | .ok after => ⟨r.ending, r.stdout, r.stderr, after⟩
    | .error fault => ⟨.escaped (.access p fault), r.stdout, r.stderr, files⟩

/-- A run on a file tree. -/
def run (files : FileTree) (commandLine : List Text) : Result :=
  (respond files.look commandLine).carryOut files

end MonkeyScan
