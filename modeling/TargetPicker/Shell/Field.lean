import TargetPicker.Shell.Pattern
import TargetPicker.Shell.Command

/-!
# Fields

What a word expands to is a list of *stretches*.  Most stretches stay as they are; those that came
from an expansion are cut into fields at the separators (`Stretch.fields`).  A blank that separates
is dropped at the start of a field, and several of them count as one; any other separator ends a
field even if that is empty.  Arguments of the script that were expanded within quotes have borders
of their own, the character zero, and nothing else separates them.

A field keeps the quotes of its word until it is used.  One that is nothing but quotes is empty and
yet there.
-/

namespace TargetPicker.Shell

/-- A character of an expanded word, or a quote of it. -/
inductive Item where
  /-- With `exact` the character stands for itself in a pattern. -/
  | char (c : Char) (exact : Bool)
  | quote
  deriving DecidableEq, Repr, Inhabited

/-- How a stretch is cut into fields. -/
inductive Cut where
  | never
  | separators
  /-- Only at the borders of arguments. -/
  | borders
  deriving DecidableEq, Repr, Inhabited

/-- A part of an expanded word. -/
structure Stretch where
  items : List Item
  cut : Cut := .never
  deriving Repr, Inhabited

/-- A text as items. -/
def itemsOf (exact : Bool) (t : Text) : List Item := t.map fun c => .char c exact

namespace Item

/-- The text of items without their quotes. -/
def text (items : List Item) : Text :=
  items.filterMap fun item => match item with
    | char c _ => some c
    | quote => none

/-- The pattern that items write; `escaped` holds after a backslash that is no character of its
own. -/
def pattern (escaped : Bool) : List Item → Text
  | [] => []
  | quote :: rest => pattern false rest
  | char c true :: rest => (if escaped then [c] else ['\\', c]) ++ pattern false rest
  | char '\\' false :: rest => '\\' :: pattern true rest
  | char c false :: rest => c :: pattern false rest

end Item

/-- The blanks among the separators. -/
def isSeparatingBlank (c : Char) : Bool := c == ' ' || c == '\t' || c == '\n' || c == '\x00'

namespace Stretch

/-- The text of stretches. -/
def text (stretches : List Stretch) : Text := Item.text (stretches.flatMap (·.items))

/-- The pattern that stretches write. -/
def pattern (stretches : List Stretch) : Text :=
  Item.pattern false (stretches.flatMap (·.items))

/-- Fields that are being cut; the lists have the last element first. -/
structure Cutting where
  field : List Item := []
  fields : List (List Item) := []
  /-- How many fields may still come, the open one among them, if there is a limit. -/
  left : Option Nat := none
  /-- What follows the last field that may come, as long as it is nothing but its end. -/
  held : List Item := []
  last : Cut := .never
  deriving Inhabited

namespace Cutting

/-- Ends the open field. -/
def close (s : Cutting) : Cutting :=
  { s with field := [], fields := s.field :: s.fields, left := s.left.map (· - 1) }

/-- Adds an item to the open field, or to what follows it. -/
def add (s : Cutting) (item : Item) : Cutting :=
  if s.held.isEmpty then { s with field := item :: s.field }
  else { s with held := item :: s.held }

/-- Drops separators after the end of a field: blanks, and one that is no blank if the field ended
with a blank. -/
def dropSeparators (separators : Text) (blank : Bool) : List Item → List Item
  | .char c exact :: rest =>
    if c != '\x00' && !separators.contains c then .char c exact :: rest
    else if isSeparatingBlank c then dropSeparators separators blank rest
    else if blank then dropSeparators separators false rest
    else .char c exact :: rest
  | items => items

theorem length_dropSeparators_le (separators : Text) (blank : Bool) (items : List Item) :
    (dropSeparators separators blank items).length ≤ items.length := by
  induction items generalizing blank with
  | nil => simp [dropSeparators]
  | cons item rest ih =>
    cases item with
    | quote => simp [dropSeparators]
    | char c exact =>
      rw [dropSeparators]
      split
      · exact Nat.le_refl _
      · split
        · exact Nat.le_succ_of_le (ih blank)
        · split
          · exact Nat.le_succ_of_le (ih false)
          · exact Nat.le_refl _

/-- Takes a character after the last field that may come.  Blanks are held, and one separator after
a blank; any other character belongs to the field, and so does what was held before it. -/
def takeLast (separators : Text) (blank : Bool) (s : Cutting) (item : Item) : Bool × Cutting :=
  match item with
  | .quote => (blank, s.add item)
  | .char c _ =>
    let separates := c == '\x00' || separators.contains c
    if separates && isSeparatingBlank c then (blank, { s with held := item :: s.held })
    else if separates && blank then (false, s.add item)
    else (false, { s with field := item :: (s.held ++ s.field), held := [] })

/-- Cuts a stretch at separators; after borders an empty field counts.  `blank` tells whether the
last field that may come ended with a blank. -/
def atSeparators (separators : Text) (afterBorders blank : Bool) (s : Cutting) :
    List Item → Cutting
  | [] => s
  | item :: rest =>
    if s.left == some 0 then
      let (blank, s) := takeLast separators blank s item
      atSeparators separators afterBorders blank s rest
    else match item with
      | .quote => atSeparators separators afterBorders blank (s.add .quote) rest
      | .char c exact =>
        if c != '\x00' && !separators.contains c then
          atSeparators separators afterBorders blank (s.add (.char c exact)) rest
        else
          let blank := !afterBorders && isSeparatingBlank c
          if s.field.isEmpty && blank then atSeparators separators afterBorders blank s rest
          else if s.left == some 1 then
            atSeparators separators afterBorders blank
              { s with left := some 0, held := [.char c exact] } rest
          else
            atSeparators separators afterBorders blank s.close
              (dropSeparators separators blank rest)
termination_by items => items.length
decreasing_by
  all_goals simp only [List.length_cons]
  all_goals try exact Nat.lt_succ_self _
  exact Nat.lt_succ_of_le (length_dropSeparators_le _ _ _)

/-- Cuts a stretch at the borders of arguments. -/
def atBorders (s : Cutting) : List Item → Cutting
  | [] => s
  | .char '\x00' _ :: rest => atBorders s.close rest
  | item :: rest => atBorders (s.add item) rest

/-- Cuts one stretch. -/
def step (separators : Text) (s : Cutting) (stretch : Stretch) : Cutting :=
  match stretch.cut with
  | .never => stretch.items.foldl add s
  | .separators =>
    let s := atSeparators separators (s.last == .borders) false s stretch.items
    { s with last := .separators }
  | .borders => { atBorders s stretch.items with last := .borders }

end Cutting

/-- **The fields of an expanded word**, at most as many as the limit says. -/
def fields (separators : Text) (limit : Option Nat) (stretches : List Stretch) :
    List (List Item) :=
  let s := stretches.foldl (Cutting.step separators) { left := limit }
  let s := if s.last == .borders || !s.field.isEmpty then s.close else s
  s.fields.reverse.map List.reverse

end Stretch

end TargetPicker.Shell
