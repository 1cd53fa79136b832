import TargetPicker.Text.Basic

/-!
# Blank characters

Blank is the Unicode property `White_Space`: it decides what `trim` removes and where `words`
cuts.  It is wider than the ASCII blanks, so a no-break space or an ideographic space ends a word
too.

* `trim` drops the blanks at both ends and touches nothing between them.
* `words` are the maximal runs of characters that are not blank.
-/

namespace TargetPicker.Text

/-- **The property `White_Space`.** -/
def isBlank (c : Char) : Bool :=
  let n := c.toNat
  (0x09 ≤ n && n ≤ 0x0D) || n == 0x20 || n == 0x85 || n == 0xA0 || n == 0x1680 ||
    (0x2000 ≤ n && n ≤ 0x200A) || n == 0x2028 || n == 0x2029 || n == 0x202F || n == 0x205F ||
    n == 0x3000

/-- The text without the blanks at its start. -/
def trimStart (t : Text) : Text := t.dropWhile isBlank

/-- The text without the blanks at its end. -/
def trimEnd (t : Text) : Text := (t.reverse.dropWhile isBlank).reverse

/-- The text without the blanks at either end. -/
def trim (t : Text) : Text := trimEnd (trimStart t)

/-- The maximal runs of characters that are not blank, in order. -/
def words (t : Text) : List Text := (t.splitOnP isBlank).filter nonempty

end TargetPicker.Text
