import TargetPicker.Makefile.Basic
import TargetPicker.Text.Quoted

/-!
# Log records

What the library reports while it works.  A record is the fact itself; its level and its text are
functions of it.
-/

namespace TargetPicker

/-- How a process ended. -/
inductive ExitStatus where
  | code (n : Nat)
  | signal (n : Nat)
  deriving DecidableEq, Repr, Inhabited

/-- The weight of a record, from the least to the greatest. -/
inductive Level where
  | trace
  | debug
  | info
  | warn
  | error
  deriving DecidableEq, Repr, Inhabited

/-- One report. -/
inductive Record where
  /-- A source was opened. -/
  | opened (path : Text)
  /-- A line was recognised; lines taken into a recipe are not. -/
  | recognized (identifier : Text) (line : Nat) (kind : LineKind)
  /-- A rule was read to the end of its recipe. -/
  | rule (target : Text) (line recipeLines : Nat)
  /-- A makefile was read to its end. -/
  | parsed (identifier : Text) (rules definitions : Nat)
  /-- The picker starts a target. -/
  | running (target : Text)
  /-- A command ended. -/
  | exited (command target : Text) (status : ExitStatus)
  /-- A command could not be started. -/
  | notRun (command target cause : Text)
  deriving DecidableEq, Repr, Inhabited

namespace Level

/-- The place of a level among all levels. -/
def rank : Level → Nat
  | trace => 0
  | debug => 1
  | info => 2
  | warn => 3
  | error => 4

end Level

namespace ExitStatus

/-- The names of the signals, by number from 1 on. -/
def signalNames : List Text :=
  ["SIGHUP", "SIGINT", "SIGQUIT", "SIGILL", "SIGTRAP", "SIGABRT", "SIGBUS", "SIGFPE", "SIGKILL",
   "SIGUSR1", "SIGSEGV", "SIGUSR2", "SIGPIPE", "SIGALRM", "SIGTERM", "SIGSTKFLT", "SIGCHLD",
   "SIGCONT", "SIGSTOP", "SIGTSTP", "SIGTTIN", "SIGTTOU", "SIGURG", "SIGXCPU", "SIGXFSZ",
   "SIGVTALRM", "SIGPROF", "SIGWINCH", "SIGIO", "SIGPWR", "SIGSYS"].map String.toList

/-- The status as it is shown. -/
def message : ExitStatus → Text
  | code n => "exit status: ".toList ++ Text.decimal n
  | signal n =>
    let name := match signalNames[n - 1]? with
      | some name => " (".toList ++ name ++ ")".toList
      | none => []
    "signal: ".toList ++ Text.decimal n ++ name

end ExitStatus

namespace LineKind

/-- A kind with two named texts, as records show it. -/
def fields (kind first second : String) (a b : Text) : Text :=
  kind.toList ++ " \x7b ".toList ++ first.toList ++ ": ".toList ++ Text.quoted a ++
    ", ".toList ++ second.toList ++ ": ".toList ++ Text.quoted b ++ " \x7d".toList

/-- The kind of a line as records show it. -/
def describe : LineKind → Text
  | comment => "Comment".toList
  | unrecognized => "Unrecognized".toList
  | directive name rest => fields "SpecialDirective" "name" "rest" name rest
  | ruleHeader target prerequisites =>
    fields "RuleHeader" "target" "prerequisites" target prerequisites
  | simple name value => fields "SimpleVariable" "name" "value" name value
  | expanded name value => fields "ExpandedVariable" "name" "value" name value

end LineKind

namespace Record

/-- How weighty a record is. -/
def level : Record → Level
  | recognized .. => .trace
  | opened _ | rule .. | parsed .. | exited .. => .debug
  | running _ => .info
  | notRun .. => .warn

/-- The text of a record. -/
def message : Record → Text
  | opened path => "opened ".toList ++ path
  | recognized identifier line kind =>
    identifier ++ ":".toList ++ Text.decimal line ++ ": ".toList ++ kind.describe
  | rule target line recipeLines =>
    "rule ".toList ++ target ++ " at line ".toList ++ Text.decimal line ++ " with ".toList ++
      Text.decimal recipeLines ++ " recipe line(s)".toList
  | parsed identifier rules definitions =>
    "parsed ".toList ++ identifier ++ ": ".toList ++ Text.decimal rules ++ " rule(s), ".toList ++
      Text.decimal definitions ++ " variable(s)".toList
  | running target => "running target ".toList ++ target
  | exited command target status =>
    command ++ " ".toList ++ target ++ " exited with ".toList ++ status.message
  | notRun command target cause =>
    "failed to run ".toList ++ command ++ " ".toList ++ target ++ ": ".toList ++ cause

/-- The records of a level or above. -/
def atLeast (least : Level) (records : List Record) : List Record :=
  records.filter fun r => least.rank ≤ r.level.rank

end Record

end TargetPicker
