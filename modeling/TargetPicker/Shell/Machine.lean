import TargetPicker.Shell.Process
import TargetPicker.Shell.Signal

/-!
# The machine under the shell

All processes, and what they share: the file tree, pipes, and time.

* A *description* is an open file or one end of a pipe; the descriptors of a process are numbers
  for descriptions, and two numbers may mean the same one, also in two processes.
* A *channel* is what flows through a pipe.  The first one takes the output of the whole run and
  has room for all of it.

Each process has a clock.  A process that waits goes on from the time at which what it waits for has
come (`Machine.settle`), and of those that can go on the earliest does so first (`Machine.next?`).
-/

namespace TargetPicker.Shell

/-- What a descriptor stands for. -/
inductive Description where
  | device (kind : Device)
  /-- The end of a pipe that is read from. -/
  | source (channel : Nat)
  /-- The end of a pipe that is written to. -/
  | sink (channel : Nat)
  | file (path : Path) (offset : Nat) (use : FileUse)
  | directory
  deriving Repr, Inhabited

/-! ## Channels -/

/-- What was written to a pipe and not yet read: the earlier chunks in order, and the later ones
with the last one first. -/
structure Channel where
  front : List Text := []
  back : List Text := []
  size : Nat := 0
  deriving Repr, Inhabited

namespace Channel

/-- A pipe takes more as long as it holds fewer bytes than this. -/
def capacity : Nat := 65536

/-- Everything in a channel. -/
def text (c : Channel) : Text := (c.front ++ c.back.reverse).flatten

/-- Adds a chunk. -/
def push (c : Channel) (t : Text) : Channel :=
  { c with back := t :: c.back, size := c.size + t.length }

/-- Takes at most `limit` bytes of the first chunk. -/
def take (c : Channel) (limit : Nat) : Text × Channel :=
  let chunks := if c.front.isEmpty then c.back.reverse else c.front
  let back := if c.front.isEmpty then [] else c.back
  match chunks with
  | [] => ([], c)
  | t :: rest =>
    let taken := t.take limit
    let left := t.drop limit
    (taken, { front := if left.isEmpty then rest else left :: rest
              back
              size := c.size - taken.length })

/-- Takes the bytes up to the end of a line out of the first chunk. -/
def takeLine (c : Channel) : Text × Channel :=
  match (if c.front.isEmpty then c.back.reverse else c.front) with
  | [] => ([], c)
  | t :: _ => c.take ((t.takeWhile (· != '\n')).length + 1)

end Channel

/-! ## Machines -/

/-- The whole state. -/
structure Machine where
  tree : FileTree
  descriptions : Array Description
  channels : Array Channel
  /-- The process that is running. -/
  current : Process
  /-- All other processes. -/
  others : List Process := []
  nextProcess : Nat
  deriving Inhabited

namespace Machine

/-- All processes. -/
def processes (m : Machine) : List Process := m.current :: m.others

/-- What a descriptor of a process stands for. -/
def describes (m : Machine) (p : Process) (descriptor : Nat) : Option (Nat × Description) := do
  let index ← p.descriptor? descriptor
  let d ← m.descriptions[index]?
  return (index, d)

/-- Holds if some process has a descriptor for a description of `f`. -/
def someHolds (m : Machine) (f : Description → Bool) : Bool :=
  m.processes.any fun p => p.descriptors.any fun d => (m.descriptions[d.2]?).any f

/-- Holds if a channel can still be written to. -/
def hasWriter (m : Machine) (channel : Nat) : Bool :=
  m.someHolds fun d => match d with
    | .sink c => c == channel
    | _ => false

/-- Holds if a channel is still read.  The output always is. -/
def hasReader (m : Machine) (channel : Nat) : Bool :=
  channel == 0 || m.someHolds fun d => match d with
    | .source c => c == channel
    | _ => false

/-- A channel by number. -/
def channel (m : Machine) (n : Nat) : Channel := (m.channels[n]?).getD {}

/-- Holds if a channel takes more. -/
def hasRoom (m : Machine) (n : Nat) : Bool := n == 0 || (m.channel n).size < Channel.capacity

/-- The children of a process. -/
def children (m : Machine) (id : Nat) : List Process := m.processes.filter fun p => p.parent == id

/-- Holds if what a process waits for has come. -/
def hasCome (m : Machine) (p : Process) : Bool :=
  match p.waiting with
  | .nothing => true
  | .input c => (m.channel c).size != 0 || !m.hasWriter c
  | .room c => m.hasRoom c || !m.hasReader c
  | .child => (m.children p.id).any (·.ending.isSome) || (m.children p.id).isEmpty

/-- Lets the processes go on for which what they wait for has come, from the time of the process
that has just run. -/
def settle (m : Machine) : Machine :=
  let now := m.current.time
  let settled (p : Process) : Process :=
    if p.waiting != .nothing && p.ending.isNone && m.hasCome p then
      { p with time := max p.time now, waiting := .nothing }
    else p
  { m with current := settled m.current, others := m.others.map settled }

/-- Holds if a process can go on. -/
def isReady (p : Process) : Bool := p.ending.isNone && p.waiting == .nothing

/-- The process that goes on first. -/
def next? (m : Machine) : Option Process :=
  (m.processes.filter isReady).foldl (fun (best : Option Process) p => match best with
    | none => some p
    | some q =>
      if p.time < q.time || (p.time == q.time && p.id < q.id) then some p else some q) none

/-- Lets a process run. -/
def switchTo (m : Machine) (p : Process) : Machine :=
  { m with current := p, others := m.processes.filter fun q => q.id != p.id }

/-- Ends a process. -/
def endProcess (p : Process) (how : ExitStatus) : Process :=
  { p with ending := some how, descriptors := [], functions := [], texts := [] }

/-- Ends the running process. -/
def finish (m : Machine) (how : ExitStatus) : Machine :=
  { m with current := endProcess m.current how }

/-- The time that passes until a signal has ended a process. -/
def signalDelay : Nat := 500

/-- Sends a signal to another process. -/
def signalOther (m : Machine) (signal id : Nat) : Machine :=
  match m.others.find? fun p => p.id == id with
  | none => m
  | some p =>
    let put (p : Process) : Machine :=
      { m with others := m.others.map fun q => if q.id == id then p else q }
    let ended := put { endProcess p (.signal signal) with time := m.current.time + signalDelay }
    if p.ending.isSome || signal == 0 then m
    else if signal == Signal.kill then ended
    else if p.ignores signal then m
    else if (p.trap? signal).isSome then put (p.noteSignal signal)
    else if Signal.isHarmless signal then m
    else ended

end Machine

end TargetPicker.Shell
