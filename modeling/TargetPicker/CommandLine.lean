import TargetPicker.Text.Basic

/-!
# The command line

Two options take a value, `--file` (or `-f`) and `--make`; `--help` (or `-h`) asks for help.  There
are no positional arguments.

The arguments are read from left to right.  A value may be attached to its option, as in `-fv`,
`-f=v` or `--file=v`, or be the next argument, unless that starts with a hyphen and something
follows the hyphen.  An option whose value is the next argument is *pending* until another option
or the end of the line settles it; only then does it count as given.  So an argument that is no
option at all is reported before a fault of the pending option.
-/

namespace TargetPicker

/-- What the command line chooses. -/
structure Options where
  /-- The path of the makefile. -/
  file : Text := "Makefile".toList
  /-- The command that runs a target. -/
  make : Text := "make".toList
  deriving DecidableEq, Repr, Inhabited

/-- Why a command line is not taken. -/
inductive UsageError where
  /-- An option has no value. -/
  | missingValue
  /-- An option was given twice. -/
  | repeated
  /-- An argument is neither an option nor the value of one. -/
  | unknown
  /-- A value is attached to an option that takes none. -/
  | unneededValue
  /-- Help was asked for. -/
  | help
  deriving DecidableEq, Repr, Inhabited

namespace CommandLine

/-- The options that take a value. -/
inductive ValueOption where
  | file
  | make
  deriving DecidableEq, Repr, Inhabited

/-- What an argument is by its own look. -/
inductive Argument where
  /-- The mark after which everything is positional. -/
  | separator
  /-- An option, with the value attached to it. -/
  | option (name : ValueOption) (attached : Option Text)
  | help (attached : Option Text)
  /-- What looks like an option and is none. -/
  | unknown
  /-- Anything else: the value of a pending option, or a positional argument. -/
  | plain (value : Text)
  deriving DecidableEq, Repr, Inhabited

/-- A long option, after its two hyphens; what follows the first `=` is attached to it. -/
def longArgument (body : Text) : Argument :=
  let name := body.takeWhile (· != '=')
  let attached := (body.dropWhile (· != '=')).tail?
  if name = "file".toList then .option .file attached
  else if name = "make".toList then .option .make attached
  else if name = "help".toList then .help attached
  else .unknown

/-- A short option, after its hyphen; what follows the letter is attached to it, without a leading
`=`. -/
def shortArgument (letter : Char) (rest : Text) : Argument :=
  match letter, rest with
  | 'f', [] => .option .file none
  | 'f', '=' :: value => .option .file (some value)
  | 'f', value => .option .file (some value)
  | 'h', _ => .help none
  | _, _ => .unknown

/-- **What an argument looks like.** -/
def Argument.ofText : Text → Argument
  | ['-', '-'] => .separator
  | '-' :: '-' :: body => longArgument body
  | '-' :: letter :: rest => shortArgument letter rest
  | value => .plain value

/-- The options seen so far. -/
structure State where
  file : Option Text := none
  make : Option Text := none
  /-- The option that still takes a value, or has one and is not settled yet. -/
  pending : Option (ValueOption × Option Text) := none
  /-- Holds after the separator. -/
  separated : Bool := false
  deriving DecidableEq, Repr, Inhabited

namespace State

/-- The value that an option was given. -/
def given (s : State) : ValueOption → Option Text
  | .file => s.file
  | .make => s.make

/-- Gives an option its value; no option takes two. -/
def give (s : State) (name : ValueOption) (value : Text) : Except UsageError State :=
  if (s.given name).isSome then .error .repeated
  else match name with
    | .file => .ok { s with file := some value }
    | .make => .ok { s with make := some value }

/-- Settles the pending option. -/
def settle (s : State) : Except UsageError State :=
  match s.pending with
  | none => .ok s
  | some (_, none) => .error .missingValue
  | some (name, some value) => { s with pending := none }.give name value

/-- **Takes in one argument.** -/
def step (s : State) (argument : Text) : Except UsageError State :=
  if s.separated then .error .unknown
  else match Argument.ofText argument with
    | .separator => .ok { s with separated := true }
    | .option name (some value) => do (← s.settle).give name value
    | .option name none => do return { (← s.settle) with pending := some (name, none) }
    | .help none => do
      let _ ← s.settle
      .error .help
    | .help (some _) => .error .unneededValue
    | .unknown => .error .unknown
    | .plain value =>
      match s.pending with
      | some (name, none) => .ok { s with pending := some (name, some value) }
      | _ => .error .unknown

/-- The options chosen, with the defaults for those not given. -/
def options (s : State) : Options :=
  { file := s.file.getD ({} : Options).file
    make := s.make.getD ({} : Options).make }

end State

end CommandLine

/-- **Reads a command line**; the first problem from the left is reported. -/
def Options.ofArguments (arguments : List Text) : Except UsageError Options := do
  let s ← arguments.foldlM CommandLine.State.step {}
  return (← s.settle).options

end TargetPicker
