import TargetPicker.Log.Record
import TargetPicker.Picker.Count
import TargetPicker.Picker.Key

/-!
# The picker

The picker holds a list of targets, one of them selected, and reads keys in one of three modes.

* `browsing` — keys move the selection, with a count typed before them.
* `enteringSearch` — keys edit the text of a search.
* `searching` — `n` and `N` go round the targets that contain that text.

`Picker.press` is one key.  It never runs anything itself: it answers with the target that is to be
run, if the key asks for one, and `Picker.withOutput` takes the output in when it is there.  A
`Session` joins the picker to something that runs targets.
-/

namespace TargetPicker

/-- How keys are understood. -/
inductive Mode where
  | browsing
  | enteringSearch
  | searching
  deriving DecidableEq, Repr, Inhabited

/-- Holds of the modes in which a search text is shown. -/
def Mode.isSearch : Mode → Bool
  | browsing => false
  | enteringSearch | searching => true

/-- The state of the picker.  There is at least one choice, and `selected` is the index of one. -/
structure Picker where
  /-- The targets, in the order of the makefile. -/
  choices : List Text
  selected : Nat
  /-- What the last target printed. -/
  output : Text
  /-- The count while browsing, the search text otherwise. -/
  buffer : Text
  mode : Mode
  shouldQuit : Bool
  deriving DecidableEq, Repr, Inhabited

namespace Picker

/-- The picker before any key. -/
def ofChoices (choices : List Text) : Picker :=
  { choices, selected := 0, output := [], buffer := [], mode := .browsing, shouldQuit := false }

/-- The target under the cursor. -/
def selectedTarget (p : Picker) : Text := p.choices.getD p.selected []

/-! ## Searching

The targets are tried in a circle, starting beside the selected one and never coming back to it.
-/

/-- Holds if the target at an index contains the search text. -/
def matchesAt (p : Picker) (index : Nat) : Bool := p.buffer.isPartOf (p.choices.getD index [])

/-- The first of the indices that matches, or else the selected one. -/
def firstMatch (p : Picker) (indices : List Nat) : Nat :=
  (indices.find? p.matchesAt).getD p.selected

/-- How far the other targets are from the selected one, in a circle. -/
def distances (p : Picker) : List Nat := List.range' 1 (p.choices.length - 1)

/-- The nearest match after the selected target, going round. -/
def nextMatch (p : Picker) : Nat :=
  p.firstMatch (p.distances.map fun d => (p.selected + d) % p.choices.length)

/-- The nearest match before the selected target, going round. -/
def previousMatch (p : Picker) : Nat :=
  p.firstMatch (p.distances.map fun d => (p.selected + p.choices.length - d) % p.choices.length)

/-! ## Moving -/

/-- Up by a number of targets, but not beyond the first. -/
def up (p : Picker) (n : Nat) : Picker := { p with selected := p.selected - n }

/-- Down by a number of targets, but not beyond the last. -/
def down (p : Picker) (n : Nat) : Picker :=
  { p with selected := min (p.choices.length - 1) (p.selected + n) }

/-- Forgets what was typed. -/
def clear (p : Picker) : Picker := { p with buffer := [] }

/-- Appends a character to what was typed. -/
def push (p : Picker) (c : Char) : Picker := { p with buffer := p.buffer ++ [c] }

/-! ## Keys -/

/-- A key while browsing.  Every key with a meaning ends the count. -/
def pressBrowsing (p : Picker) : KeyCode → Picker × Option Text
  | .char 'q' => ({ p with shouldQuit := true }.clear, none)
  | .up | .char 'k' => ((p.up (Count.ofText p.buffer)).clear, none)
  | .down | .char 'j' => ((p.down (Count.ofText p.buffer)).clear, none)
  | .char 'r' => ({ p with output := [] }.clear, none)
  | .enter => (p.clear, some p.selectedTarget)
  | .char '/' => ({ p with mode := .enteringSearch }.clear, none)
  | .char c => (p.push c, none)
  | _ => (p, none)

/-- A key while the search text is edited. -/
def pressEntering (p : Picker) : KeyCode → Picker
  | .enter => { p with mode := .searching, selected := p.nextMatch }
  | .backspace => { p with buffer := p.buffer.dropLast }
  | .char c => p.push c
  | _ => p

/-- A key while a search is active. -/
def pressSearching (p : Picker) : KeyCode → Picker × Option Text
  | .char 'n' => ({ p with selected := p.nextMatch }, none)
  | .char 'N' => ({ p with selected := p.previousMatch }, none)
  | .char '/' => ({ p with mode := .enteringSearch }.clear, none)
  | .enter => (p, some p.selectedTarget)
  | _ => (p, none)

/-- **One key**: the picker after it, and the target that it asks to run. -/
def press (p : Picker) (k : Key) : Picker × Option Text :=
  if k.isInterrupt then ({ p with shouldQuit := true }, none)
  else if k.code = .escape then ({ p with mode := .browsing }.clear, none)
  else match p.mode with
    | .browsing => p.pressBrowsing k.code
    | .enteringSearch => (p.pressEntering k.code, none)
    | .searching => p.pressSearching k.code

/-- No key changes what there is to pick from. -/
@[simp] theorem choices_press (p : Picker) (k : Key) : (p.press k).1.choices = p.choices := by
  unfold press
  split
  · rfl
  · split
    · rfl
    · split
      · unfold pressBrowsing
        split <;> rfl
      · unfold pressEntering
        split <;> rfl
      · unfold pressSearching
        split <;> rfl

/-- Takes in the output of the target that was run. -/
def withOutput (p : Picker) (output : Text) : Picker := { p with output }

end Picker

/-! ## Sessions -/

/-- What running a target gives: its output, and the records made on the way. -/
structure Run where
  output : Text
  log : List Record
  deriving DecidableEq, Repr, Inhabited

/-- Something that runs targets, and may change the state of the world by it. -/
abbrev Runner (World : Type) := Text → World → Run × World

/-- A picker together with the world in which its targets run. -/
structure Session (World : Type) where
  picker : Picker
  world : World
  /-- The targets run so far, in order. -/
  runs : List Text
  log : List Record

namespace Session

variable {World : Type}

/-- A session before any key. -/
def start (choices : List Text) (world : World) : Session World :=
  { picker := Picker.ofChoices choices, world, runs := [], log := [] }

/-- Runs a target and shows its output. -/
def run (runner : Runner World) (s : Session World) (target : Text) : Session World :=
  let (outcome, world) := runner target s.world
  { picker := s.picker.withOutput outcome.output
    world
    runs := s.runs ++ [target]
    log := s.log ++ .running target :: outcome.log }

/-- One key, and the run that it asks for. -/
def press (runner : Runner World) (s : Session World) (k : Key) : Session World :=
  match s.picker.press k with
  | (picker, none) => { s with picker }
  | (picker, some target) => { s with picker }.run runner target

/-- A sequence of keys. -/
def pressAll (runner : Runner World) (s : Session World) (keys : List Key) : Session World :=
  keys.foldl (press runner) s

end Session

end TargetPicker
