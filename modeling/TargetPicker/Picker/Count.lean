import TargetPicker.Text.Basic

/-!
# Count prefixes

Digits typed before a motion repeat it.  A count is a number of one machine word in decimal, with
an optional plus sign.  Whatever else was typed, a number too large for a word included, counts
as one.
-/

namespace TargetPicker.Count

/-- The numbers of one machine word are those below this limit. -/
def limit : Nat := Nat.pow 2 64

/-- The value of a list of decimal digits. -/
def value (digits : Text) : Nat := digits.foldl (fun n c => n * 10 + (c.toNat - '0'.toNat)) 0

/-- The text without the plus sign that may stand in front of the digits. -/
def unsigned : Text → Text
  | '+' :: digits => digits
  | digits => digits

/-- The number that a text writes, if it is one and fits into a word. -/
def ofText? (t : Text) : Option Nat :=
  let digits := unsigned t
  if Text.nonempty digits && digits.all Char.isDigit && value digits < limit then
    some (value digits)
  else none

/-- **How often a motion is repeated** after `t` was typed. -/
def ofText (t : Text) : Nat := (ofText? t).getD 1

end TargetPicker.Count
