import TargetPicker.Makefile.LineKind

/-!
# Makefiles

The model of a makefile: its rules and its variables, each in the order of the text and each with
the line that it comes from.  Look-ups answer with the first match.
-/

namespace TargetPicker

/-- A rule: a target, what it depends on, and the commands of its recipe. -/
structure Rule where
  target : Text
  dependencies : List Text
  /-- The commands of the recipe, in order. -/
  body : List Text
  /-- The name of the makefile. -/
  identifier : Text
  /-- The number of the line that holds the target. -/
  lineNumber : Nat
  deriving DecidableEq, Repr, Inhabited

/-- How a variable came to its value. -/
inductive VariableKind where
  /-- Expanded when it is defined. -/
  | simple
  /-- Expanded whenever it is used. -/
  | expanded
  /-- Set by a directive. -/
  | special
  deriving DecidableEq, Repr, Inhabited

/-- A variable or a directive, with the text assigned to it. -/
structure Variable where
  name : Text
  assignment : Text
  kind : VariableKind
  /-- The name of the makefile. -/
  identifier : Text
  lineNumber : Nat
  deriving DecidableEq, Repr, Inhabited

/-- A makefile as far as this library reads it. -/
structure Makefile where
  /-- The name under which it was read, usually a path. -/
  identifier : Text
  rules : List Rule
  definitions : List Variable
  deriving DecidableEq, Repr, Inhabited

namespace Rule

def hasBody (r : Rule) : Bool := !r.body.isEmpty

end Rule

namespace VariableKind

/-- The sign by which a kind is shown. -/
def sign : VariableKind → Text
  | simple => ":=".toList
  | expanded => "=".toList
  | special => "special".toList

end VariableKind

namespace Variable

def isSpecial (v : Variable) : Bool := v.kind == .special

/-- The directive whose words are targets that are not files. -/
def phonyName : Text := ['P', 'H', 'O', 'N', 'Y']

/-- Holds of the directives `.PHONY`; a plain variable of that name is none. -/
def isPhony (v : Variable) : Bool := v.isSpecial && v.name == phonyName

end Variable

namespace Makefile

/-- Holds if neither a rule nor a variable was found. -/
def isEmpty (m : Makefile) : Bool := m.rules.isEmpty && m.definitions.isEmpty

/-- The targets of all rules, in order and with duplicates. -/
def targets (m : Makefile) : List Text := m.rules.map (·.target)

/-- The first rule for a target. -/
def ruleFor? (m : Makefile) (target : Text) : Option Rule :=
  m.rules.find? fun r => r.target == target

/-- The first variable of a name, whatever its kind. -/
def variableNamed? (m : Makefile) (name : Text) : Option Variable :=
  m.definitions.find? fun v => v.name == name

/-- The words of all `.PHONY` directives, in order. -/
def phonyTargets (m : Makefile) : List Text :=
  (m.definitions.filter (·.isPhony)).flatMap fun v => Text.words v.assignment

end Makefile

end TargetPicker
