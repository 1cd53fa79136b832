import TargetPicker.Picker.Basic
import TargetPicker.Text.Lines

/-!
# What the picker shows

The view is a list of lines, each made of styled spans: key help, the search text while there is
one, the targets with the selected one marked, and the output of the last run.  Only the selected
target is ever underlined.

`Screen.draw` lays the lines out on a screen of a given size.  The lines are taken as narrow enough:
each is one row, after an empty one if it is made of blanks alone (`Screen.rows`).
-/

namespace TargetPicker

/-- The styles of the view. -/
inductive Style where
  | plain
  | bold
  /-- Bold and underlined. -/
  | underlined
  deriving DecidableEq, Repr, Inhabited

/-- A text in one style. -/
structure Span where
  text : Text
  style : Style := .plain
  deriving DecidableEq, Repr, Inhabited

namespace Picker

/-- A line of help: the key and what it does. -/
def helpLine (key action : Text) : List Span :=
  [{ text := key, style := .bold }, { text := action }]

/-- The help at the top, and an empty line. -/
def helpLines : List (List Span) :=
  [helpLine "Press q".toList " to quit.".toList,
   helpLine "Press r".toList " to drop output.".toList, []]

/-- The search text and an empty line, while there is a search. -/
def searchLines (p : Picker) : List (List Span) :=
  if p.mode.isSearch then
    [[{ text := "Search text:".toList, style := .bold }, { text := [' '] }, { text := p.buffer }],
     []]
  else []

/-- The line above the targets. -/
def titleLine : List Span := [{ text := "Makefile's targets:".toList }]

/-- The line of one target. -/
def choiceLine (target : Text) (isSelected : Bool) : List Span :=
  if isSelected then [{ text := ['>', ' '] }, { text := target, style := .underlined }]
  else [{ text := [' ', ' '] }, { text := target, style := .bold }]

/-- One line for each target, in order. -/
def choiceLines (p : Picker) : List (List Span) :=
  p.choices.zipIdx.map fun (target, index) => choiceLine target (index == p.selected)

/-- A line of output; an empty one has no span. -/
def outputLine (line : Text) : List Span := if line.isEmpty then [] else [{ text := line }]

/-- An empty line and the lines of the output, if there is any. -/
def outputLines (p : Picker) : List (List Span) :=
  if p.output.isEmpty then [] else [] :: (Text.lines p.output).map outputLine

/-- **The view**, from top to bottom. -/
def view (p : Picker) : List (List Span) :=
  helpLines ++ p.searchLines ++ [titleLine] ++ p.choiceLines ++ p.outputLines

end Picker

/-! ## Screens -/

/-- One place of a screen. -/
structure Cell where
  symbol : Char := ' '
  style : Style := .plain
  deriving DecidableEq, Repr, Inhabited

namespace Screen

/-- The cells of a line, one for each character. -/
def cells (line : List Span) : List Cell :=
  line.flatMap fun span => span.text.map fun symbol => { symbol, style := span.style }

/-- Holds if a line has characters, and all of them are blanks. -/
def isBlank (line : List Cell) : Bool := !line.isEmpty && line.all fun c => c.symbol == ' '

/-- The rows of a line.  Words are broken off where the blanks before them end; blanks that no word
follows are kept, on a row of their own below the row that was begun for the word. -/
def rows (line : List Span) : List (List Cell) :=
  if isBlank (cells line) then [[], cells line] else [cells line]

/-- A list cut at a size, or filled up to it. -/
def fit {α : Type} (blank : α) (size : Nat) (xs : List α) : List α :=
  xs.take size ++ List.replicate (size - xs.length) blank

/-- **The screen**: as many rows as it is high, each as many cells as it is wide. -/
def draw (width height : Nat) (lines : List (List Span)) : List (List Cell) :=
  fit (List.replicate width {}) height ((lines.flatMap rows).map (fit {} width))

end Screen

end TargetPicker
