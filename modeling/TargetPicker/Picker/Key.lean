import TargetPicker.Text.Basic

/-!
# Keys

A key press is a key code with the modifiers that were held down.  Only control is ever asked for;
shift has already done its work when a character arrives.
-/

namespace TargetPicker

/-- The key that was pressed. -/
inductive KeyCode where
  | char (c : Char)
  | escape
  | enter
  | backspace
  | up
  | down
  | left
  | right
  | home
  | endOfLine
  | pageUp
  | pageDown
  | tab
  | backTab
  | delete
  | insert
  | null
  | function (n : Nat)
  /-- Any other key, by its name: a lock, a media key, a modifier on its own. -/
  | further (name : Text)
  deriving DecidableEq, Repr, Inhabited

/-- The modifiers held down with a key. -/
structure Modifiers where
  control : Bool := false
  shift : Bool := false
  alt : Bool := false
  superKey : Bool := false
  hyperKey : Bool := false
  metaKey : Bool := false
  deriving DecidableEq, Repr, Inhabited

/-- One key press. -/
structure Key where
  code : KeyCode
  modifiers : Modifiers := {}
  deriving DecidableEq, Repr, Inhabited

namespace Key

/-- A character typed without modifiers. -/
def typed (c : Char) : Key := { code := .char c }

/-- The key that quits in every mode: `c` with control, whatever else is held down. -/
def isInterrupt (k : Key) : Bool := k.code == .char 'c' && k.modifiers.control

theorem code_of_isInterrupt {k : Key} (h : k.isInterrupt = true) : k.code = .char 'c' := by
  simp only [isInterrupt, Bool.and_eq_true, beq_iff_eq] at h
  exact h.1

end Key

end TargetPicker
