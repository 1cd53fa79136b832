import TargetPicker.Makefile.Reading

/-!
# Before the picker starts

The picker needs at least one target.  Three things can stand in the way: the makefile does not
exist, it cannot be read, or it has no rules.  A makefile counts as missing only if it is certain
that there is none; if even that cannot be found out, opening it tells why.
-/

namespace TargetPicker

/-- Why the picker does not start. -/
inductive StartupError where
  | missing (path : Text)
  | unreadable (cause : SourceError)
  | noTargets
  deriving DecidableEq, Repr, Inhabited

namespace StartupError

/-- The error as it is shown. -/
def message : StartupError → Text
  | missing path => "Can't find ".toList ++ path ++ " here".toList
  | unreadable cause => "Can't parse Makefile due to error: ".toList ++ cause.message
  | noTargets => "Makefile doesn't contain any targets".toList

/-- What the program writes to the standard error before it ends. -/
def report (e : StartupError) : Text := e.message ++ ['\n']

/-- The code with which the program ends. -/
def exitCode : Nat := 1

end StartupError

/-- The targets to pick from, or why there are none; with the records made on the way. -/
structure Startup where
  result : Except StartupError (List Text)
  log : List Record
  deriving Inhabited

/-- The targets of a reading. -/
def Startup.ofReading (reading : Reading) : Startup :=
  { result := match reading.result with
      | .error e => .error (.unreadable e)
      | .ok m => if m.targets.isEmpty then .error .noTargets else .ok m.targets
    log := reading.log }

/-- **Loads the targets of a makefile**, from what is known of its existence and from what opening
it gives. -/
def loadTargets (path : Text) (found : Except Failure Bool)
    (opened : Except Failure (List ReadEvent)) : Startup :=
  match found with
  | .ok false => { result := .error (.missing path), log := [] }
  | _ => Startup.ofReading (Makefile.parseOpened path opened)

end TargetPicker
