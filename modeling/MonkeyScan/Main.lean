import MonkeyScan.Program

/-!
# `MonkeyScan.Main`: the program on a real system

Looks up the paths that a command line leads to, takes the response, and
prints and saves what it says. All decisions are in `respond`.
-/

set_option autoImplicit false

namespace MonkeyScan.Main

/-- The access fault that an error of the system is. -/
def faultOf : IO.Error → AccessFault
  | .noFileOrDirectory _ _ _ => .noSuchFile
  | .inappropriateType _ code _ => if code = 21 then .isDirectory else .notDirectory
  | .invalidArgument _ code details =>
    if code = 36 then .nameTooLong else .other code.toNat details.toList
  | .permissionDenied _ code details => .other code.toNat details.toList
  | .resourceExhausted _ code details => .other code.toNat details.toList
  | .hardwareFault code details => .other code.toNat details.toList
  | e => .other 5 (toString e).toList

/-- What a path leads to on this system. -/
def lookUp (p : Path) : IO (Except AccessFault Node) := do
  if p.toText.contains '\x00' then return .error .nulInPath
  try
    let bytes ← IO.FS.readBinFile (String.ofList p.toText)
    return .ok (.file bytes.toList)
  catch e =>
    match faultOf e with
    | .isDirectory => return .ok .directory
    | fault => return .error fault

/-- The paths that a command line leads to. -/
def paths (commandLine : List Text) : List Path :=
  match Arguments.parse commandLine with
  | .error _ => []
  | .ok arguments => [arguments.configPath, Path.ofText arguments.input]

/-- Writes a text to a path, and tells the failure if that fails. -/
def save (p : Path) (t : Text) : IO (Option Failure) := do
  if p.toText.contains '\x00' then return some (.access p .nulInPath)
  try
    IO.FS.writeBinFile (String.ofList p.toText) ⟨(Text.Utf8.encode t).toArray⟩
    return none
  catch e => return some (.access p (faultOf e))

/-- Tells a failure that ends the run, and the exit code for it. -/
def giveUp (failure : Failure) : IO UInt32 := do
  IO.eprintln (String.ofList failure.message)
  return 1

end MonkeyScan.Main

open MonkeyScan in
/-- Runs the program on the arguments of the process. -/
def main (arguments : List String) : IO UInt32 := do
  let commandLine := arguments.map String.toList
  let found ← (Main.paths commandLine).mapM fun p => do return (p, ← Main.lookUp p)
  let response := respond (fun p => (found.lookup p).getD (.error .noSuchFile)) commandLine
  IO.print (String.ofList response.stdout)
  IO.eprint (String.ofList response.stderr)
  if let some (p, t) := response.save then
    if let some failure ← Main.save p t then
      return ← Main.giveUp failure
  match response.ending with
  | .exit code | .commandLine code => return code.toUInt32
  | .escaped failure => Main.giveUp failure
