import TargetPicker.Shell.Variables

/-!
# What programs share

A program is given its arguments and gives its exit status.  It reads and writes through the
descriptors of its process, and its messages start with the name by which it was called.

The programs are here as far as recipes ask for them: options are letters, and a program that is
asked for more refuses its arguments.
-/

namespace TargetPicker.Shell.Program

open Act

/-! ## Output -/

/-- Writes a message of the program that is running. -/
def say (t : Text) : Act Unit := do
  complain ((← current).name ++ ": ".toList ++ t)

/-- Writes to the standard output; a program whose output is lost ends there. -/
def put (t : Text) : Act Unit := do
  match ← write 1 t with
  | .ok _ => pure ()
  | .error why =>
    say ("write error: ".toList ++ why)
    finish (.code 1)

/-- Writes a line to the standard output. -/
def putLine (t : Text) : Act Unit := put (t ++ ['\n'])

/-- A text between quotes. -/
def quoted (t : Text) : Text := ['\''] ++ t ++ ['\'']

/-- The name of a file, between quotes if a shell would not read it as itself. -/
def shownName (t : Text) : Text :=
  if t.isEmpty || t.any " !\"$&()*;<=>[^`|'\\?:".toList.contains then quoted t else t

/-! ## Refusals -/

/-- Fails with a message. -/
def fail (t : Text) : Act Nat := do
  say t
  return 1

/-- Fails with a message that something cannot be done with a file. -/
def failTo (what : String) (path why : Text) : Act Nat :=
  fail (what.toList ++ [' '] ++ quoted path ++ ": ".toList ++ why)

/-- Refuses arguments, and says where to look. -/
def refuse (t : Text) : Act Nat := do
  say t
  complain ("Try '".toList ++ (← current).name ++ " --help' for more information.".toList)
  return 1

/-- Does something with each of some things; gives the greatest status. -/
def forEach {α : Type} (xs : List α) (f : α → Act Nat) : Act Nat := do
  return (← xs.mapM f).foldl max 0

/-! ## Options -/

/-- The options that a program was given, by letter, each with its value, and the operands. -/
structure Options where
  found : List (Char × Text) := []
  operands : List Text := []
  deriving Repr, Inhabited

namespace Options

/-- Holds if an option was given. -/
def has (o : Options) (c : Char) : Bool := o.found.any fun f => f.1 == c

/-- The last value that was given to an option. -/
def value? (o : Options) (c : Char) : Option Text :=
  (o.found.reverse.find? fun f => f.1 == c).map (·.2)

/-- The options of one argument after its hyphen, and the arguments that are left, or what is wrong.
The letters of `plain` stand alone; those of `valued` take the rest of their argument, or the next
one. -/
def readLetters (plain valued : String) (rest : List Text) :
    Text → Except Text (List (Char × Text) × List Text)
  | [] => .ok ([], rest)
  | c :: t => do
    if plain.toList.contains c then
      let (others, rest) ← readLetters plain valued rest t
      return ((c, []) :: others, rest)
    else if !valued.toList.contains c then
      .error ("invalid option -- ".toList ++ quoted [c])
    else match t, rest with
      | [], [] => .error ("option requires an argument -- ".toList ++ quoted [c])
      | [], value :: rest => return ([(c, value)], rest)
      | t, rest => return ([(c, t)], rest)

/-- The options among arguments; `n` bounds the arguments. -/
def readBy (plain valued : String) (o : Options) : Nat → List Text → Except Text Options
  | n + 1, a :: rest => do
    match a with
    | ['-', '-'] => return { o with operands := o.operands ++ rest }
    | '-' :: c :: t =>
      if c == '-' then .error ("unrecognized option ".toList ++ quoted a)
      else
        let (found, rest) ← readLetters plain valued rest (c :: t)
        readBy plain valued { o with found := o.found ++ found } n rest
    | _ => readBy plain valued { o with operands := o.operands ++ [a] } n rest
  | _, _ => .ok o

end Options

/-- Gives the options of a program to what follows, unless they are refused, with a status. -/
def withOptions (plain valued : String) (refusal : Nat) (arguments : List Text)
    (f : Options → Act Nat) : Act Nat := do
  match Options.readBy plain valued {} arguments.length arguments with
  | .ok o => f o
  | .error why =>
    let _ ← refuse why
    return refusal

/-! ## Input -/

/-- Paths, or the standard input if there are none. -/
def orInput (paths : List Text) : List Text := if paths.isEmpty then [['-']] else paths

/-- Opens a file for an action that reads from its descriptor; a hyphen is the standard input. -/
def withInput {α : Type} (path : Text) (f : Nat → Act (Except Text α)) :
    Act (Except Text α) := do
  if path == ['-'] then f 0
  else match ← openPath path .read false with
    | .error cause => return .error (reason cause)
    | .ok index =>
      let n := (← current).freeDescriptor
      update fun p => p.bind n index
      let result ← f n
      update fun p => p.close n
      return result

/-- What an action reads from some files, or from the standard input if there are none, with their
paths; of a file that cannot be read there is a message only.  Tells whether all could be read. -/
def inputsBy {α : Type} (paths : List Text) (f : Nat → Act (Except Text α)) :
    Act (List (Text × α) × Bool) := do
  let parts ← (orInput paths).mapM fun path => do
    match ← withInput path f with
    | .ok a => return some (path, a)
    | .error why =>
      say (shownName path ++ ": ".toList ++ why)
      return none
  return (parts.filterMap fun part => part, parts.all Option.isSome)

/-- The contents of some files, or of the standard input if there are none. -/
def inputs (paths : List Text) : Act (List (Text × Text) × Bool) := inputsBy paths readAll

/-- The pieces of a text that end at line ends. -/
def linesOf (t : Text) : List Text :=
  let pieces := t.splitOn '\n'
  pieces.dropLast.map (· ++ ['\n']) ++ (pieces.getLast?.toList).filter Text.nonempty

/-- The lines of a text without their ends. -/
def bareLines (t : Text) : List Text :=
  (linesOf t).map fun line => if line.getLast? == some '\n' then line.dropLast else line

/-- Lines with their ends. -/
def unlines (lines : List Text) : Text := lines.flatMap (· ++ ['\n'])

end TargetPicker.Shell.Program
