import MonkeyScan.CommandLine
import MonkeyScan.Config

/-!
# `MonkeyScan.Options`: settings from configuration and command line

Two settings can stand in the configuration: the output format and whether to
go on after errors. What the command line gives wins over it. A format in the
configuration must be one of the two, even if it is not used; for the other
setting anything but a boolean counts as absent. A format option without a
value wins as well, and leaves no format: such a run renders text.
-/

set_option autoImplicit false

namespace MonkeyScan

/-- The settings of one run. There is no format if the option was given
without a value. -/
structure Options where
  input : Path
  output : Option Path
  format : Option Format
  keepGoing : Bool
  deriving DecidableEq, Repr

/-- Why settings cannot be made. -/
inductive OptionsFault where
  | malformedConfig (fault : Toml.Fault)
  /-- The configured format, as it is shown, is none of the two. -/
  | unknownFormat (shown : Text)
  | failed (failure : Failure)

namespace OptionsFault

/-- What every report of a malformed configuration starts with. -/
def malformedConfigText : Text :=
  "invalid config file: ".toList

/-- The wording of a fault. -/
def message : OptionsFault → Text
  | malformedConfig fault => malformedConfigText ++ fault.message
  | unknownFormat shown =>
    "invalid output format in config: ".toList ++ shown ++ " (expected one of ".toList
      ++ [',', ' '].intercalate (Format.all.map Format.name) ++ [')']
  | failed failure => failure.message

end OptionsFault

/-! ### Configured settings -/

namespace Config

/-- The entry of a key in a table of the configuration. -/
def entry? (config : Toml.Table) (table key : Text) : Option Toml.Value :=
  match config.lookup table with
  | some (.table fields) => fields.lookup key
  | _ => none

/-- The format that a value names. -/
def formatNamed? : Toml.Value → Option Format
  | .string name => Format.ofName? name
  | _ => none

/-- The configured format, if there is one. -/
def format? (config : Toml.Table) : Except OptionsFault (Option Format) :=
  match entry? config "output".toList "format".toList with
  | none => .ok none
  | some value =>
    match formatNamed? value, value.shown with
    | some format, _ => .ok (some format)
    | none, .ok shown => .error (.unknownFormat shown)
    | none, .error passed => .error (.failed (.limit passed))

/-- Whether going on is configured, if it is. -/
def keepGoing? (config : Toml.Table) : Option Bool :=
  match entry? config "lexer".toList "keep_going".toList with
  | some (.boolean b) => some b
  | _ => none

end Config

/-! ### Merging -/

namespace Arguments

/-- The path of the configuration file that the arguments lead to. An empty
name counts as none. -/
def configPath (arguments : Arguments) : Path :=
  Config.path ((arguments.config.value?.filter (!·.isEmpty)).map Path.ofText)
    (Path.ofText arguments.input).parent

/-- The format of a run, from what is given and what is configured. -/
def chosenFormat (given : Setting Format) (configured : Option Format) : Option Format :=
  match given with
  | .value format => some format
  | .blank => none
  | .absent => some (configured.getD .text)

/-- The settings that arguments and configuration make. -/
def merge (arguments : Arguments) (config : Toml.Table) : Except OptionsFault Options :=
  match Config.format? config with
  | .error fault => .error fault
  | .ok format =>
    .ok {
      input := Path.ofText arguments.input
      output := (arguments.output.value?.filter (!·.isEmpty)).map Path.ofText
      format := chosenFormat arguments.format format
      keepGoing := arguments.keepGoing || (Config.keepGoing? config).getD false }

/-- The settings of a run. -/
def resolve (arguments : Arguments) (look : Lookup) : Except OptionsFault Options :=
  match Config.load look arguments.configPath with
  | .error (.malformed fault) => .error (.malformedConfig fault)
  | .error (.failed failure) => .error (.failed failure)
  | .ok config => arguments.merge config

end Arguments

end MonkeyScan
