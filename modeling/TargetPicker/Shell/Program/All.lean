import TargetPicker.Shell.Program.Expr
import TargetPicker.Shell.Program.Files
import TargetPicker.Shell.Program.Lines
import TargetPicker.Shell.Program.Streams

/-!
# The programs of the system

All programs but the shell, by name.
-/

namespace TargetPicker.Shell.Program

/-- The programs by name. -/
def all : List (String × (List Text → Act Nat)) :=
  [("true", fun _ => return 0), ("false", fun _ => return 1), ("echo", echo), ("sleep", sleep),
   ("yes", yes), ("cat", cat), ("tee", tee), ("head", head), ("tail", tail), ("wc", wc),
   ("sort", sort), ("cut", cut), ("tr", tr), ("grep", grep), ("sed", sed), ("expr", expr),
   ("basename", basename), ("dirname", dirname), ("readlink", readlink), ("ls", ls), ("rm", rm),
   ("rmdir", rmdir), ("mkdir", mkdir), ("touch", touch), ("chmod", chmod), ("cp", cp), ("mv", mv),
   ("ln", ln)]

/-- The program of a name. -/
def find? (name : Text) : Option (List Text → Act Nat) :=
  (all.find? fun p => p.1.toList == name).map (·.2)

end TargetPicker.Shell.Program
