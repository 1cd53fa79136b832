import TargetPicker.Input.ReadEvent
import TargetPicker.Picker.Basic
import TargetPicker.Text.Utf8

/-!
# Running a command with a target

A target is run by a command that is started with the target as its only argument.  What starts
commands is none of the picker's business: a `Launcher` gives a process, or tells why there is none.

Of the process two things count, in this order.

* All that it writes goes through one pipe, which is read to its end.  Something else may hold the
  pipe, so that its end comes after that of the process.
* Then the process is waited for.

Whatever fails on the way is shown in place of the output.
-/

namespace TargetPicker

/-- **Reads to the end**: all bytes before it, or the first failure.  Interrupted reads are taken
again. -/
def ReadEvent.readAll : List ReadEvent → Except Failure Bytes
  | [] | endOfFile :: _ => .ok []
  | failure cause :: rest => if cause.kind = .interrupted then readAll rest else .error cause
  | bytes content :: rest => (readAll rest).map (content ++ ·)

/-- A process that was started. -/
structure Child where
  /-- What the reads of its pipe give. -/
  pipe : List ReadEvent
  /-- How it ended, or why it could not be waited for. -/
  ending : Except Failure ExitStatus
  deriving Inhabited

/-- **Something that starts a command** with a target, and may change the state of the world by
it. -/
abbrev Launcher (World : Type) := Text → Text → World → Except Failure Child × World

namespace Launcher

variable {World : Type}

/-- How a command ended and all that it wrote. -/
def combinedOutput (launch : Launcher World) (command target : Text) (world : World) :
    Except Failure (ExitStatus × Bytes) × World :=
  let (started, world) := launch command target world
  let outcome : Except Failure (ExitStatus × Bytes) := do
    let child ← started
    let output ← ReadEvent.readAll child.pipe
    let status ← child.ending
    return (status, output)
  (outcome, world)

/-- What is shown of a command that failed. -/
def failureText (command target cause : Text) : Text :=
  "Failed to run '".toList ++ command ++ [' '] ++ target ++ "': ".toList ++ cause

/-- **Runs a command with the targets that it is given.** -/
def runner (launch : Launcher World) (command : Text) : Runner World := fun target world =>
  match launch.combinedOutput command target world with
  | (.ok (status, output), world) =>
    ({ output := Text.decode output, log := [.exited command target status] }, world)
  | (.error cause, world) =>
    ({ output := failureText command target cause.text
       log := [.notRun command target cause.text] }, world)

end Launcher

end TargetPicker
