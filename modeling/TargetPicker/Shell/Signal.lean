import TargetPicker.Shell.Basic

/-!
# Signals

The signals by number, as commands name them (`Signal.name`, `Signal.ofText?`) and as the end of a
process is reported (`Signal.report?`).  Number zero stands for the end of the shell itself, which
can be trapped like a signal.
-/

namespace TargetPicker.Shell.Signal

/-- The signals with names of their own, from 1 on, each with the report of an end by it. -/
def named : List (String × String) :=
  [("HUP", "Hangup"), ("INT", ""), ("QUIT", "Quit"), ("ILL", "Illegal instruction"),
   ("TRAP", "Trace/breakpoint trap"), ("ABRT", "Aborted"), ("BUS", "Bus error"),
   ("FPE", "Floating point exception"), ("KILL", "Killed"), ("USR1", "User defined signal 1"),
   ("SEGV", "Segmentation fault"), ("USR2", "User defined signal 2"), ("PIPE", ""),
   ("ALRM", "Alarm clock"), ("TERM", "Terminated"), ("16", "Stack fault"), ("CHLD", "Child exited"),
   ("CONT", "Continued"), ("STOP", "Stopped (signal)"), ("TSTP", "Stopped"),
   ("TTIN", "Stopped (tty input)"), ("TTOU", "Stopped (tty output)"),
   ("URG", "Urgent I/O condition"), ("XCPU", "CPU time limit exceeded"),
   ("XFSZ", "File size limit exceeded"), ("VTALRM", "Virtual timer expired"),
   ("PROF", "Profiling timer expired"), ("WINCH", "Window changed"), ("IO", "I/O possible"),
   ("PWR", "Power failure"), ("SYS", "Bad system call")]

/-- The number of signals, zero among them. -/
def count : Nat := 65

/-- The first and the last of the signals that are only numbered. -/
def firstNumbered : Nat := 34

/-- The name of a signal. -/
def name (n : Nat) : Text :=
  if n == 0 then "EXIT".toList
  else match named[n - 1]? with
    | some (t, _) => t.toList
    | none =>
      let middle := firstNumbered + 15
      let last := count - 1
      if n < firstNumbered then Text.decimal n
      else if n == firstNumbered then "RTMIN".toList
      else if n ≤ middle then "RTMIN+".toList ++ Text.decimal (n - firstNumbered)
      else if n == last then "RTMAX".toList
      else "RTMAX-".toList ++ Text.decimal (last - n)

/-- The signal that a text names or numbers, from `least` on; names are taken in any case. -/
def ofText? (least : Nat) (t : Text) : Option Nat :=
  match number? t with
  | some n =>
    if t.all Char.isDigit && n < count then some n else none
  | none =>
    (List.range count).find? fun n => least ≤ n && (name n).map Char.toUpper == t.map Char.toUpper

/-- What is said of a process that a signal has ended; nothing where that is no news. -/
def report? (n : Nat) : Option Text :=
  match named[n - 1]? with
  | some (_, "") => none
  | some (_, t) => some t.toList
  | none =>
    if n < firstNumbered then some ("Unknown signal ".toList ++ Text.decimal n)
    else some ("Real-time signal ".toList ++ Text.decimal (n - firstNumbered))

/-- Holds of the signals that do nothing to a process that has not asked for them. -/
def isHarmless (n : Nat) : Bool := [0, 17, 18, 19, 20, 21, 22, 23, 28].contains n

/-- The signal that cannot be caught. -/
def kill : Nat := 9

/-- The signal of a pipe that nobody reads. -/
def pipe : Nat := 13

/-- The signal that asks a process to end. -/
def terminate : Nat := 15

/-- The signals that the system keeps to itself: no process is ended by them, or can have traps for
them. -/
def reserved : List Nat := [32, 33]

/-- The signals of the keyboard, which background processes do not heed. -/
def keyboard : List Nat := [2, 3]

end TargetPicker.Shell.Signal
