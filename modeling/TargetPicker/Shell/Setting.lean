import TargetPicker.Shell.Basic

/-!
# Settings

The switches of the shell.  Each has a name and a letter; a set of settings is the list of the names
of those that are on.
-/

namespace TargetPicker.Shell.Setting

/-- All settings. -/
def all : List (String × Char) :=
  [("errexit", 'e'), ("noglob", 'f'), ("stdin", 's'), ("xtrace", 'x'), ("verbose", 'v'),
   ("noclobber", 'C'), ("allexport", 'a'), ("nounset", 'u')]

/-- The setting of a letter. -/
def ofLetter? (c : Char) : Option String := (all.find? fun s => s.2 == c).map (·.1)

/-- The setting of a name. -/
def ofName? (t : Text) : Option String := (all.find? fun s => s.1.toList == t).map (·.1)

/-- Turns a setting on or off. -/
def turn (name : String) (isOn : Bool) (settings : List String) : List String :=
  let others := settings.filter (· != name)
  if isOn then name :: others else others

end TargetPicker.Shell.Setting
