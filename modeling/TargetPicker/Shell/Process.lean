import TargetPicker.Host.FileTree
import TargetPicker.Log.Record
import TargetPicker.Shell.Command

/-!
# Processes

The state of one process that runs a script: its variables and functions, its descriptors, its
place in the file tree, what it knows of its children, and a clock of its own.  A process that runs
a program has the same state and uses less of it.
-/

namespace TargetPicker.Shell

/-- A variable.  One without a value is not set, but may have attributes. -/
structure Variable where
  name : Text
  value : Option Text := none
  exported : Bool := false
  readOnly : Bool := false
  deriving DecidableEq, Repr, Inhabited

/-- How control leaves commands, up to what takes it up. -/
inductive Skip where
  | none
  /-- Leaves a number of loops, and goes on with the next round of the last one if it is to. -/
  | loops (count : Nat) (goesOn : Bool)
  /-- Leaves a function or a file; `plain` if no status was given. -/
  | function (plain : Bool)
  deriving DecidableEq, Repr, Inhabited

/-- Processes that were started together, and how they ended. -/
structure Job where
  number : Nat
  members : List (Nat × Option ExitStatus)
  deriving Repr, Inhabited

namespace Job

/-- Holds while a process of the job is running. -/
def isRunning (j : Job) : Bool := j.members.any fun m => m.2.isNone

/-- How the last process ended. -/
def ending (j : Job) : ExitStatus := (j.members.getLast?.bind (·.2)).getD (.code 0)

end Job

/-- The number that scripts see for the end of a process. -/
def endNumber : ExitStatus → Nat
  | .code n => n
  | .signal n => 128 + n

/-- What a process waits for. -/
inductive Waiting where
  /-- Nothing but its time. -/
  | nothing
  /-- A channel to be read from. -/
  | input (channel : Nat)
  /-- A channel to be written to. -/
  | room (channel : Nat)
  /-- The end of a child. -/
  | child
  deriving DecidableEq, Repr, Inhabited

/-- The state of one process. -/
structure Process where
  id : Nat
  parent : Nat := 0
  /-- The process of the script, for `$$`. -/
  scriptId : Nat := id
  /-- What `$0` stands for, or how the program was called. -/
  name : Text := []
  arguments : List Text := []
  /-- Where `getopts` goes on: the number of an argument and, in the middle of the argument before
  that, the number of its characters that were read. -/
  optionIndex : Nat := 1
  optionOffset : Option Nat := none
  bindings : List Variable := []
  /-- The variables that the running functions and commands put back at their end, as they were if
  they were there, the innermost scope first. -/
  scopes : List (List (Text × Option Variable)) := []
  functions : List (Text × Command) := []
  aliases : List (Text × Text) := []
  /-- The texts of here-documents by number, and the number of the next one. -/
  texts : List (Nat × Word) := []
  nextText : Nat := 0
  descriptors : List (Nat × Nat) := []
  /-- The descriptors that redirections have set aside, the innermost ones first: each with the
  number under which it is kept, if it was open. -/
  setAside : List (List (Nat × Option Nat)) := []
  directory : Path
  /-- The directory as the script names it. -/
  logical : Text := []
  /-- The clock, in microseconds. -/
  time : Nat := 0
  waiting : Waiting := .nothing
  status : Nat := 0
  /-- The status of the last command whose output became part of a word, since the command
  started. -/
  substituted : Nat := 0
  /-- The line of the command that is running, and the one that was read last. -/
  line : Nat := 1
  lineRead : Nat := 1
  /-- The command of the shell that is running, as messages name it. -/
  running : Option Text := none
  settings : List String := []
  traps : List (Nat × Text) := []
  /-- The signals that the process does not heed, apart from its traps. -/
  unheeded : List Nat := []
  /-- The signals that have come and wait for their traps. -/
  pending : List Nat := []
  loops : Nat := 0
  skip : Skip := .none
  /-- The status to end with, while a trap is run. -/
  kept : Option Nat := none
  /-- Holds while the text in front of a trace is expanded. -/
  tracing : Bool := false
  /-- What the running command of the shell has written and not yet passed on. -/
  buffer : Text := []
  /-- The jobs, the latest first. -/
  jobs : List Job := []
  lastBackground : Nat := 0
  /-- How the process ended. -/
  ending : Option ExitStatus := none
  deriving Inhabited

namespace Process

/-- Holds if a setting is on. -/
def has (p : Process) (setting : String) : Bool := p.settings.contains setting

/-- A variable by name. -/
def binding? (p : Process) (name : Text) : Option Variable :=
  p.bindings.find? fun v => v.name == name

/-- The value of a variable. -/
def value? (p : Process) (name : Text) : Option Text := (p.binding? name).bind (·.value)

/-- The value of a variable named in the source of this library, or another text. -/
def valueOr (p : Process) (name : String) (other : Text) : Text :=
  (p.value? name.toList).getD other

/-- Puts a variable in place of the one of its name. -/
def putVariable (p : Process) (v : Variable) : Process :=
  { p with bindings := if p.bindings.any fun w => w.name == v.name then
      p.bindings.map fun w => if w.name == v.name then v else w
    else p.bindings ++ [v] }

/-- Takes a variable away. -/
def dropVariable (p : Process) (name : Text) : Process :=
  { p with bindings := p.bindings.filter fun v => v.name != name }

/-- The characters that separate fields. -/
def separators (p : Process) : Text := p.valueOr "IFS" " \t\n".toList

/-- The trap of a signal. -/
def trap? (p : Process) (signal : Nat) : Option Text :=
  (p.traps.find? fun t => t.1 == signal).map (·.2)

/-- Holds if some signal has a trap that does something. -/
def hasTraps (p : Process) : Bool := p.traps.any fun t => Text.nonempty t.2

/-- Holds of signals that do nothing to the process. -/
def ignores (p : Process) (signal : Nat) : Bool :=
  p.unheeded.contains signal || p.trap? signal == some []

/-- Notes a signal for its trap. -/
def noteSignal (p : Process) (signal : Nat) : Process :=
  if p.pending.contains signal then p else { p with pending := p.pending ++ [signal] }

/-- The place of what a descriptor stands for. -/
def descriptor? (p : Process) (n : Nat) : Option Nat :=
  (p.descriptors.find? fun d => d.1 == n).map (·.2)

/-- Lets a descriptor stand for something. -/
def bind (p : Process) (n index : Nat) : Process :=
  { p with descriptors := (n, index) :: p.descriptors.filter fun d => d.1 != n }

/-- Closes a descriptor. -/
def close (p : Process) (n : Nat) : Process :=
  { p with descriptors := p.descriptors.filter fun d => d.1 != n }

/-- Scripts use descriptors below this number. -/
def scriptDescriptors : Nat := 10

/-- The first number under which a descriptor can be set aside; the one before it is that of the
script. -/
def freeDescriptor (p : Process) : Nat :=
  (p.descriptors.map (·.1)).foldl (fun n d => max n (d + 1)) (scriptDescriptors + 1)

end Process

end TargetPicker.Shell
