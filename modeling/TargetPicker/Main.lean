import TargetPicker.CommandLine
import TargetPicker.Picker.View
import TargetPicker.Startup

/-!
# The command line program

Reads the makefile that the options name and lets the user pick a target.  Keys are read line by
line: each character of a line is a key, and an empty line is the enter key.  Running a target
shows the command that makes it; the program starts no processes itself.
-/

namespace TargetPicker.Application

/-- The failure that an error of the system tells of. -/
def failureOf (e : IO.Error) : Failure :=
  let text (details : String) (code : UInt32) : Text :=
    details.toList ++ " (os error ".toList ++ Text.decimal code.toNat ++ [')']
  match e with
  | .noFileOrDirectory _ code details => ⟨.notFound, text details code⟩
  | .permissionDenied _ code details => ⟨.permissionDenied, text details code⟩
  | .inappropriateType _ code details =>
    ⟨if code.toNat == 21 then .isADirectory else .notADirectory, text details code⟩
  | .interrupted _ code details => ⟨.interrupted, text details code⟩
  | e => ⟨.other, e.toString.toList⟩

/-- What opening a path gives. -/
def openPath (path : String) : IO (Except Failure (List ReadEvent)) := do
  match ← (IO.FS.Handle.mk path .read).toBaseIO with
  | .error e => return .error (failureOf e)
  | .ok handle =>
    match ← handle.readBinToEnd.toBaseIO with
    | .ok content => return .ok [.bytes content.toList]
    | .error e => return .ok [.failure (failureOf e)]

/-- Whether a path exists, by what opening it gave. -/
def existence (opened : Except Failure (List ReadEvent)) : Except Failure Bool :=
  match opened with
  | .ok _ => .ok true
  | .error cause => if cause.kind = .notFound then .ok false else .error cause

/-- Shows the command that makes a target. -/
def commandLine (command : Text) : Runner Unit := fun target world =>
  ({ output := command ++ [' '] ++ target ++ ['\n'], log := [] }, world)

/-- Writes the view of a picker. -/
def printView (p : Picker) : IO Unit :=
  p.view.forM fun line => IO.println (String.ofList (line.flatMap (·.text)))

/-- The keys of one line of input. -/
def keysOfLine (line : String) : List Key :=
  match line.toList.filter (· != '\n') with
  | [] => [{ code := .enter }]
  | typed => typed.map Key.typed

/-- Reads keys until the picker is left or the input ends. -/
partial def loop (input : IO.FS.Stream) (command : Text) (s : Session Unit) : IO Unit := do
  printView s.picker
  if s.picker.shouldQuit then return
  let line ← input.getLine
  if line.isEmpty then return
  loop input command (s.pressAll (commandLine command) (keysOfLine line))

/-- How the program is used. -/
def usage : String := "usage: target-picker [-f FILE] [--make COMMAND]"

/-- Runs the program; gives its exit code. -/
def run (arguments : List String) : IO UInt32 := do
  match Options.ofArguments (arguments.map String.toList) with
  | .error .help =>
    IO.println usage
    return 0
  | .error _ =>
    IO.eprintln usage
    return 2
  | .ok options =>
    let opened ← openPath (String.ofList options.file)
    match (loadTargets options.file (existence opened) opened).result with
    | .error e =>
      IO.eprint (String.ofList e.report)
      return UInt32.ofNat StartupError.exitCode
    | .ok targets =>
      loop (← IO.getStdin) options.make (Session.start targets ())
      return 0

end TargetPicker.Application

/-- The entry of the program. -/
def main (arguments : List String) : IO UInt32 := TargetPicker.Application.run arguments
