import TargetPicker.Shell.Action

/-!
# Schedules

Processes run one at a time, each up to a point where it can be resumed; the one that is ready first
goes first.  A run is over when its first process has ended and nobody can write to the output any
more (`Schedule.isOver`).
-/

namespace TargetPicker.Shell

/-- A machine with what its processes do next. -/
structure Schedule where
  machine : Machine
  /-- What each process does next, by its number. -/
  threads : List (Nat × (Machine → Trace))

namespace Schedule

/-- The number of the process that a run is about. -/
def first : Nat := 1000

/-- How the first process ended, if it did. -/
def ending? (s : Schedule) : Option ExitStatus :=
  (s.machine.processes.find? fun p => p.id == first).bind (·.ending)

/-- Holds if nothing that happens can be seen any more. -/
def isOver (s : Schedule) : Bool := s.ending?.isSome && !s.machine.hasWriter 0

/-- Puts the next action of a process in place of the one that it had. -/
def put (s : Schedule) (id : Nat) (thread : Machine → Trace) : Schedule :=
  { s with threads := (id, thread) :: s.threads.filter fun t => t.1 != id }

/-- Lets the process that is ready first run up to its next pause. -/
def step? (s : Schedule) : Option Schedule := do
  let p ← s.machine.next?
  let (_, thread) ← s.threads.find? fun t => t.1 == p.id
  return match thread (s.machine.switchTo p) with
    | .ended m => { machine := m.settle, threads := s.threads.filter fun t => t.1 != p.id }
    | .paused m resume => { s with machine := m.settle }.put p.id resume
    | .split m id other resume => ({ s with machine := m.settle }.put p.id resume).put id other

/-- Runs processes until the run is over, or none is ready, or a number of steps is used up. -/
def run : Nat → Schedule → Schedule
  | 0, s => s
  | n + 1, s =>
    if s.isOver then s
    else match s.step? with
      | some s => run n s
      | none => s

end Schedule

end TargetPicker.Shell
