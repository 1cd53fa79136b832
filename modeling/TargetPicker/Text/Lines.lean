import TargetPicker.Text.Basic

/-!
# The lines of a text

A line ends at a line feed, and a carriage return just before that line feed belongs to the line
ending.  What follows the last line feed is a line only if it is not empty, and keeps its carriage
return.
-/

namespace TargetPicker.Text

/-- Drops one `x` at the end, if one stands there. -/
def dropLast? {α : Type} [BEq α] (x : α) (xs : List α) : List α :=
  if xs.getLast? == some x then xs.dropLast else xs

/-- The lines of a text, without their endings. -/
def lines (t : Text) : List Text :=
  let pieces := t.splitOn '\n'
  pieces.dropLast.map (dropLast? '\r') ++ (pieces.getLast?.toList).filter nonempty

end TargetPicker.Text
