import TargetPicker.Shell.Variables

/-!
# Jobs

What a shell knows of the processes that it has started.  Processes that were started together are
one job.  Its end is noted when the shell waits for any child.  A job that was not put in the
background is forgotten when it has ended.
-/

namespace TargetPicker.Shell.Act

/-- A new job without processes; gives its number. -/
def addJob : Act Nat := do
  let number := ((← current).jobs.map (·.number)).foldl max 0 + 1
  update fun p => { p with jobs := { number, members := [] } :: p.jobs }
  return number

/-- Changes a job. -/
def changeJob (number : Nat) (f : Job → Job) : Act Unit :=
  update fun p => { p with jobs := p.jobs.map fun j => if j.number == number then f j else j }

/-- A job by number. -/
def job? (number : Nat) : Act (Option Job) := do
  return (← current).jobs.find? fun j => j.number == number

/-- Adds a process to a job. -/
def joinJob (number id : Nat) (inBackground : Bool) : Act Unit := do
  changeJob number fun j => { j with members := j.members ++ [(id, none)] }
  if inBackground then update fun p => { p with lastBackground := id }

/-- Says how a process ended, if a signal ended it. -/
def reportEnd : ExitStatus → Act Unit
  | .signal n => match Signal.report? n with
    | some t => complain t
    | none => pure ()
  | .code _ => pure ()

/-- Notes the end of a process; the end of one that is waited for is reported. -/
def noteEnd (id : Nat) (how : ExitStatus) (awaited : Option Nat) : Act Unit := do
  match (← current).jobs.find? fun j => j.isRunning && j.members.any fun m => m.1 == id with
  | none => pure ()
  | some j =>
    changeJob j.number fun j =>
      { j with members := j.members.map fun m => if m.1 == id then (id, some how) else m }
    if awaited == some j.number then reportEnd how

/-- Notes the ends of all processes that have ended by now. -/
def noteEnds (awaited : Option Nat) : Nat → Act Unit
  | 0 => return ()
  | n + 1 => do
    match ← reap with
    | some (id, how) =>
      noteEnd id how awaited
      noteEnds awaited n
    | none => return ()

/-- How many ends of processes are noted at once. -/
def manyEnds : Nat := 100000

/-- Waits until a job has ended. -/
def awaitJob (number : Nat) : Nat → Act Unit
  | 0 => return ()
  | n + 1 => do
    noteEnds (some number) manyEnds
    if (← job? number).any (·.isRunning) then
      awaitChild
      awaitJob number n

/-- Waits for the end of a job that was not put in the background; gives its status. -/
def finishJob (number : Nat) : Act Nat := do
  awaitJob number manyEnds
  let status := ((← job? number).map fun j => endNumber j.ending).getD 0
  update fun p => { p with jobs := p.jobs.filter fun j => j.number != number }
  return status

end TargetPicker.Shell.Act
