/-!
# Texts

A text is a list of characters, so that every rule of this library that cuts, joins or compares
texts is a rule on lists.  This file fixes the name and the few operations that the other modules
share:

* `Text.utf8` — the bytes that write a text;
* `Text.decimal` — a number in decimal digits;
* `Text.nonempty` — the test that drops empty pieces;
* `Text.notAfter` — the order in which texts are sorted;
* `Text.isPartOf` — the search for a text in another one.
-/

namespace TargetPicker

/-- A text is the list of its characters, each a Unicode scalar value. -/
abbrev Text := List Char

/-- Byte contents of files, pipes and readers. -/
abbrev Bytes := List UInt8

namespace Text

/-- The UTF-8 encoding of a text. -/
def utf8 (t : Text) : Bytes := t.flatMap String.utf8EncodeChar

/-- A number written in decimal, without leading zeros. -/
def decimal (n : Nat) : Text := Nat.toDigits 10 n

/-- A number written in lower-case hexadecimal, without leading zeros. -/
def hexadecimal (n : Nat) : Text := Nat.toDigits 16 n

/-- Holds of every text but the empty one. -/
def nonempty (t : Text) : Bool := !t.isEmpty

/-- Holds if the first text does not come after the second one, character by character. -/
def notAfter (a b : Text) : Bool := !decide (b < a)

/-- Holds if the first text stands somewhere in the second one. -/
def isPartOf (part : Text) : Text → Bool
  | [] => part.isEmpty
  | c :: t => part.isPrefixOf (c :: t) || part.isPartOf t

/-- A part of a text is an infix of it. -/
theorem isPartOf_iff {part t : Text} : part.isPartOf t = true ↔ part <:+: t := by
  induction t with
  | nil => simp [isPartOf]
  | cons c t ih => simp [isPartOf, ih, List.infix_cons_iff]

end Text

end TargetPicker
