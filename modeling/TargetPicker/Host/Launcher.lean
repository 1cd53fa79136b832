import TargetPicker.Picker.Launcher
import TargetPicker.Shell.Evaluation
import TargetPicker.Shell.Schedule

/-!
# Starting commands on a tree of files

A command is started on a tree of files with the target as its only argument, nothing to read, and
one pipe for everything it writes, also by background processes that outlive the command.

No shell takes part in starting it: a command with a slash is a path, any other is looked for in
the search path.
-/

namespace TargetPicker

namespace Failure

/-- Neither a command nor a target can hold the character zero. -/
def zeroInArgument : Failure := ⟨.invalidInput, "nul byte found in provided data".toList⟩

end Failure

namespace Host

/-- The directories in which commands are looked for. -/
def searchPath : List Text := ["/usr/local/bin", "/usr/bin", "/bin"].map String.toList

/-- What a command starts.  That it was found and cannot be executed weighs more than that it was not
found elsewhere. -/
def findCommand (tree : FileTree) (command : Text) (arguments : List Text) :
    Except Failure Shell.Image :=
  let imageAt (path : Text) : Except Failure Shell.Image :=
    Shell.imageAt tree (Shell.ofUnicode path) (Shell.ofUnicode command)
      (arguments.map Shell.ofUnicode)
  if command.contains '/' then imageAt command
  else if FileTree.componentLimit < (Text.utf8 command).length then .error .nameTooLong
  else if command.isEmpty then .error .missing
  else
    let step (before : Except Failure Shell.Image) (directory : Text) :
        Except Failure Shell.Image :=
      match before with
      | .ok found => .ok found
      | .error earlier =>
        match imageAt (directory ++ ['/'] ++ command) with
        | .ok image => .ok image
        | .error cause =>
          .error (if cause.kind == .permissionDenied then cause else earlier)
    searchPath.foldl step (.error .missing)

/-- The machine before a command runs. -/
def machine (tree : FileTree) : Shell.Machine :=
  let path : Shell.Variable :=
    { name := "PATH".toList, value := some ([':'].intercalate searchPath), exported := true }
  { tree
    descriptions := #[.device .null, .sink 0]
    channels := #[{}]
    nextProcess := Shell.Schedule.first + 1
    current :=
      { id := Shell.Schedule.first
        bindings := [path]
        descriptors := [(0, 0), (1, 1), (2, 1)]
        unheeded := Shell.Signal.reserved
        directory := tree.workingDirectory } }

/-- The steps that a command may take. -/
def steps : Nat := 10000000

/-- A run of a program before its first step. -/
def schedule (image : Shell.Image) (tree : FileTree) : Shell.Schedule :=
  let start := Shell.runImage steps image
  let last (m : Shell.Machine) : Shell.Trace := .ended (m.finish (.code m.current.status))
  { machine := machine tree
    threads := [(Shell.Schedule.first, fun m => start (fun _ m => last m) (fun _ m => last m) m)] }

/-- Starts a command with a target: how it ended, what it wrote, and the files afterwards. -/
def start (command target : Text) (tree : FileTree) :
    Except Failure (ExitStatus × Bytes × FileTree) := do
  if command.contains '\x00' || target.contains '\x00' then .error .zeroInArgument
  else
    let image ← findCommand tree command [target]
    let ended := (schedule image tree).run steps
    let status := ended.ending?.getD (.code 0)
    let output := Shell.toBytes (ended.machine.channel 0).text
    return (status, output, { ended.machine.tree with workingDirectory := tree.workingDirectory })

/-- **The launcher of a tree of files.**  All output is there at once. -/
def launcher : Launcher FileTree := fun command target tree =>
  match start command target tree with
  | .ok (status, output, tree) => (.ok { pipe := [.bytes output], ending := .ok status }, tree)
  | .error cause => (.error cause, tree)

end Host

end TargetPicker
