import MonkeyScan.Listing
import MonkeyScan.Text.DecimalDigit

/-!
# `MonkeyScan.CommandLine`: what a user asks for

The program takes one input and a few options. Options may stand anywhere
before a `--`. A long one may be cut short as long as it stays the only one
that begins so; short ones may be run together, and the value of one may be
written right behind it. An argument that starts with a dash is an operand
all the same if it is a dash alone, a negative number, or no option and
contains a space. A `--` that is attached to an option as its value is dropped,
and leaves the option given without a value.

`parse` reads the arguments in two passes: each is classified by itself, and
then operands and options are taken from left to right. A fault in the first
pass comes before any in the second; unknown arguments are reported last.

Releases of the standard option parser differ in three of these rules. The
ones here are those up to release 3.11.8:

* A `--` that is attached to an option is dropped. Later it is the value.
* In `-kf=json` the equals sign is part of the value of `-f`. Later it is not.
* In `-kx` and `-hx` the letter `x`, which is no option, is refused as a value
  of the option before it. Later `-x` is an unknown argument, and `-hx` asks
  for help.
-/

set_option autoImplicit false

namespace MonkeyScan

/-! ### Options -/

/-- The options. -/
inductive Flag where
  | help
  | output
  | format
  | keepGoing
  | config
  deriving DecidableEq, Repr

namespace Flag

/-- All options, in order. -/
def all : List Flag :=
  [help, output, format, keepGoing, config]

/-- The letter of an option that has a short name. -/
def letter? : Flag → Option Char
  | help => some 'h'
  | output => some 'o'
  | format => some 'f'
  | keepGoing => some 'k'
  | config => none

/-- The long name of an option. -/
def longName : Flag → Text
  | help => "--help".toList
  | output => "--output".toList
  | format => "--format".toList
  | keepGoing => "--keep-going".toList
  | config => "--config".toList

/-- The short name of an option that has one. -/
def shortName? (f : Flag) : Option Text :=
  f.letter?.map fun letter => ['-', letter]

/-- The names of an option, the short one first. -/
def names (f : Flag) : List Text :=
  f.shortName?.toList ++ [f.longName]

/-- Whether an option has a value. -/
def takesValue : Flag → Bool
  | output | format | config => true
  | help | keepGoing => false

/-- The option of a letter. -/
def ofLetter? (letter : Char) : Option Flag :=
  all.find? fun f => f.letter? == some letter

/-- The option of a full name. -/
def ofName? (name : Text) : Option Flag :=
  all.find? fun f => f.names.contains name

/-- The options with a long name that starts with `start`. -/
def startingWith (start : Text) : List Flag :=
  all.filter fun f => start.isPrefixOf f.longName

end Flag

/-! ### Faults -/

/-- Why arguments are refused. -/
inductive UsageFault where
  | ambiguous (argument : Text) (candidates : List Flag)
  | valueMissing (flag : Flag)
  | valueUnwanted (flag : Flag) (value : Text)
  | noSuchFormat (value : Text)
  | inputMissing
  | unknownArguments (arguments : List Text)
  deriving DecidableEq, Repr

/-- A sentence about an option. -/
def UsageFault.about (flag : Flag) (sentence : Text) : Text :=
  "argument ".toList ++ ['/'].intercalate flag.names ++ [':', ' '] ++ sentence

/-- The wording of a fault. -/
def UsageFault.message : UsageFault → Text
  | ambiguous argument candidates =>
    "ambiguous option: ".toList ++ argument ++ " could match ".toList
      ++ [',', ' '].intercalate (candidates.map Flag.longName)
  | valueMissing flag => about flag "expected one argument".toList
  | valueUnwanted flag value =>
    about flag ("ignored explicit argument ".toList ++ Text.quoted value)
  | noSuchFormat value =>
    about .format ("invalid choice: ".toList ++ Text.quoted value ++ " (choose from ".toList
      ++ [',', ' '].intercalate (Format.all.map fun f => Text.quoted f.name) ++ [')'])
  | inputMissing => "the following arguments are required: input".toList
  | unknownArguments arguments =>
    "unrecognized arguments: ".toList ++ [' '].intercalate arguments

/-- How the program is called, on one line. -/
def usage : Text :=
  "usage: monkeylex [-h] [-o OUTPUT] [-f \x7btext,json\x7d] [-k] [--config FILE] input\n".toList

/-- The help text. -/
def helpText : Text :=
  usage ++ ("\n" ++
    "Tokenize Monkey source and print the token stream\n" ++
    "\n" ++
    "positional arguments:\n" ++
    "  input                 Input source file\n" ++
    "\n" ++
    "options:\n" ++
    "  -h, --help            show this help message and exit\n" ++
    "  -o OUTPUT, --output OUTPUT\n" ++
    "                        Output file (default: stdout)\n" ++
    "  -f \x7btext,json\x7d, --format \x7btext,json\x7d\n" ++
    "                        Output format (default: text)\n" ++
    "  -k, --keep-going      Report every lexing error instead of stopping at the\n" ++
    "                        first\n" ++
    "  --config FILE         Config file (default: auto-discover monkeylex.toml)\n").toList

/-- The report of a fault: the usage line and the fault on a line. -/
def UsageFault.report (f : UsageFault) : Text :=
  usage ++ "monkeylex: error: ".toList ++ f.message ++ ['\n']

/-! ### First pass -/

/-- What an argument is, taken by itself. -/
inductive Piece where
  | operand (t : Text)
  /-- An option, by its short or its long name, with the text attached to it. -/
  | option (isShort : Bool) (flag : Flag) (attached : Option Text)
  | unknown (t : Text)
  /-- The `--` after which all is operand. -/
  | marker
  deriving DecidableEq, Repr

/-- Whether an argument is written like a negative number: a dash and digits,
with a point among or before them. A line feed may follow. -/
def looksNegative : Text → Bool
  | '-' :: rest =>
    let body := match rest.getLast? with
      | some '\n' => rest.dropLast
      | _ => rest
    let whole := body.takeWhile Text.isDecimalDigit
    match body.dropWhile Text.isDecimalDigit with
    | [] => !whole.isEmpty
    | '.' :: decimals => !decimals.isEmpty && decimals.all Text.isDecimalDigit
    | _ => false
  | _ => false

/-- Splits an argument at its first equals sign: what is before it, and what is
after it if there is one. -/
def splitEquals (t : Text) : Text × Option Text :=
  match t.dropWhile (· != '=') with
  | [] => (t, none)
  | _ :: value => (t.takeWhile (· != '='), some value)

/-- An argument that starts with a dash and names no option. -/
def Piece.ofOther (t : Text) : Piece :=
  if looksNegative t || t.contains ' ' then .operand t else .unknown t

/-- Classifies one argument. -/
def Piece.ofArgument (t : Text) : Except UsageFault Piece :=
  match t with
  | ['-', '-'] => .ok .marker
  | '-' :: '-' :: _ =>
    let (start, attached) := splitEquals t
    match Flag.ofName? start with
    | some flag => .ok (.option false flag attached)
    | none =>
      match Flag.startingWith start with
      | [] => .ok (.ofOther t)
      | [flag] => .ok (.option false flag attached)
      | candidates => .error (.ambiguous t candidates)
  | '-' :: letter :: rest =>
    match Flag.ofLetter? letter, rest with
    | some flag, [] => .ok (.option true flag none)
    | some flag, '=' :: value => .ok (.option true flag (some value))
    | some flag, value => .ok (.option true flag (some value))
    | none, _ => .ok (.ofOther t)
  | _ => .ok (.operand t)

/-- Classifies arguments up to the marker; what follows it is operand. -/
def Piece.ofArguments : List Text → Except UsageFault (List Piece)
  | [] => .ok []
  | t :: more => do
    match ← Piece.ofArgument t with
    | .marker => return .marker :: more.map .operand
    | piece => return piece :: (← Piece.ofArguments more)

/-! ### Second pass -/

/-- What is given for an option that has a value: nothing, the option without
a value, or a value. -/
inductive Setting (α : Type) where
  | absent
  | blank
  | value (a : α)
  deriving DecidableEq, Repr

/-- The value that is given, if one is. -/
def Setting.value? {α : Type} : Setting α → Option α
  | value a => some a
  | absent | blank => none

/-- The arguments of one call. -/
structure Arguments where
  input : Text
  output : Setting Text
  format : Setting Format
  keepGoing : Bool
  config : Setting Text
  deriving DecidableEq, Repr

/-- Why arguments are not carried out: help is asked for, or a fault. -/
inductive Refusal where
  | help
  | fault (f : UsageFault)
  deriving DecidableEq, Repr

/-- The arguments as far as they are read: those taken, the input if it is
among them, and the unknown ones. -/
structure Draft where
  input : Option Text
  given : Arguments
  unknown : List Text

namespace Draft

/-- The draft of no arguments. -/
def empty : Draft :=
  ⟨none, ⟨[], .absent, .absent, false, .absent⟩, []⟩

/-- Carries out an option that has no value. -/
def setFlag (d : Draft) : Flag → Except Refusal Draft
  | .help => .error .help
  | .keepGoing => .ok { d with given := { d.given with keepGoing := true } }
  | flag => .error (.fault (.valueMissing flag))

/-- The setting that a text makes. A text that is the marker is dropped, which
is so up to release 3.11.8. -/
def settingOf (value : Text) : Setting Text :=
  if value = ['-', '-'] then .blank else .value value

/-- The format that a text names. A text that is the marker is dropped. -/
def formatOf (value : Text) : Except Refusal (Setting Format) :=
  match settingOf value with
  | .value name =>
    match Format.ofName? name with
    | some format => .ok (.value format)
    | none => .error (.fault (.noSuchFormat name))
  | _ => .ok .blank

/-- Carries out an option with its value. -/
def setValue (d : Draft) (flag : Flag) (value : Text) : Except Refusal Draft :=
  match flag with
  | .output => .ok { d with given := { d.given with output := settingOf value } }
  | .config => .ok { d with given := { d.given with config := settingOf value } }
  | .format =>
    match formatOf value with
    | .ok format => .ok { d with given := { d.given with format := format } }
    | .error refusal => .error refusal
  | flag => .error (.fault (.valueUnwanted flag value))

end Draft

/-- What one argument asks for: options without a value, and at most one option
with a value, which is attached or still to come. -/
structure Bundle where
  switches : List Flag
  last : Option (Flag × Option Text)

/-- The options that are run together in one argument, from one of them and
the text attached to it. An option with a value takes all that is left, with an
equals sign in front if there is one, and a letter that is no option is
refused. Both are so up to release 3.11.8. -/
def Bundle.ofShort (flag : Flag) : Text → Except UsageFault Bundle
  | [] =>
    .ok (if flag.takesValue then ⟨[], some (flag, none)⟩ else ⟨[flag], none⟩)
  | letter :: rest =>
    if flag.takesValue then .ok ⟨[], some (flag, some (letter :: rest))⟩
    else
      match Flag.ofLetter? letter with
      | none => .error (.valueUnwanted flag (letter :: rest))
      | some next =>
        match Bundle.ofShort next rest with
        | .ok bundle => .ok { bundle with switches := flag :: bundle.switches }
        | .error f => .error f

/-- What an option asks for with what is attached to it. An attached text that
is empty is a value all the same. -/
def Bundle.ofOption (isShort : Bool) (flag : Flag) (attached : Option Text) :
    Except UsageFault Bundle :=
  match attached with
  | none => .ok (if flag.takesValue then ⟨[], some (flag, none)⟩ else ⟨[flag], none⟩)
  | some value =>
    if flag.takesValue then .ok ⟨[], some (flag, some value)⟩
    else if isShort && !value.isEmpty then Bundle.ofShort flag value
    else .error (.valueUnwanted flag value)

/-- Carries out options, all of whose values are known. -/
def Draft.carryOut (d : Draft) (switches : List Flag) (last : Option (Flag × Text)) :
    Except Refusal Draft := do
  let d ← switches.foldlM Draft.setFlag d
  match last with
  | none => return d
  | some (flag, value) => d.setValue flag value

/-- Takes an option. `next` is the operand behind it, if one follows; the
result tells whether that was taken as its value. -/
def Draft.takeOption (d : Draft) (isShort : Bool) (flag : Flag) (attached next : Option Text) :
    Except Refusal (Draft × Bool) :=
  match Bundle.ofOption isShort flag attached with
  | .error f => .error (.fault f)
  | .ok ⟨switches, none⟩ => do return (← d.carryOut switches none, false)
  | .ok ⟨switches, some (last, some value)⟩ => do
    return (← d.carryOut switches (some (last, value)), false)
  | .ok ⟨switches, some (last, none)⟩ =>
    match next with
    | some value => do return (← d.carryOut switches (some (last, value)), true)
    | none => .error (.fault (.valueMissing last))

/-- Takes an operand that is no value: as the input if there is none yet. -/
def Draft.takeOperand (d : Draft) (t : Text) : Draft :=
  match d.input with
  | none => { d with input := some t }
  | some _ => { d with unknown := d.unknown ++ [t] }

/-- Takes pieces from left to right. A marker right before or after the input
is dropped with it; any other is unknown. -/
def Draft.take (d : Draft) : List Piece → Except Refusal Draft
  | [] => .ok d
  | .operand t :: .marker :: more =>
    if d.input.isNone then Draft.take (d.takeOperand t) more
    else Draft.take (d.takeOperand t) (.marker :: more)
  | .operand t :: more => Draft.take (d.takeOperand t) more
  | .marker :: .operand t :: more =>
    if d.input.isNone then Draft.take (d.takeOperand t) more
    else Draft.take { d with unknown := d.unknown ++ [['-', '-']] } (.operand t :: more)
  | .marker :: more => Draft.take { d with unknown := d.unknown ++ [['-', '-']] } more
  | .unknown t :: more => Draft.take { d with unknown := d.unknown ++ [t] } more
  | .option isShort flag attached :: .operand next :: more => do
    let (d, used) ← d.takeOption isShort flag attached (some next)
    if used then Draft.take d more else Draft.take d (.operand next :: more)
  | .option isShort flag attached :: more => do
    let (d, _) ← d.takeOption isShort flag attached none
    Draft.take d more
termination_by pieces => pieces.length

namespace Arguments

/-- Reads the arguments of a call. -/
def parse (arguments : List Text) : Except Refusal Arguments :=
  match Piece.ofArguments arguments with
  | .error f => .error (.fault f)
  | .ok pieces => do
    let d ← Draft.empty.take pieces
    match d.input, d.unknown with
    | none, _ => throw (.fault .inputMissing)
    | some input, [] => return { d.given with input := input }
    | some _, unknown => throw (.fault (.unknownArguments unknown))

end Arguments

end MonkeyScan
