import TargetPicker.Text.Utf8

/-!
# Words of the shell's trade

Scripts and everything that they handle are bytes.  Here a byte is a character below 256, so that
texts serve for both (`ofBytes`, `toBytes`, `ofUnicode`, `toUnicode`).

The rest are the small rules that many commands share: what a name is (`isName`), how a number is
read (`number?`), and how a text is written so that it can be read back (`singleQuoted`).
-/

namespace TargetPicker.Shell

/-! ## Bytes -/

/-- The character of each byte. -/
def ofBytes (bs : Bytes) : Text := bs.map fun b => Char.ofNat b.toNat

/-- The bytes of a text of such characters. -/
def toBytes (t : Text) : Bytes := t.map fun c => UInt8.ofNat c.toNat

/-- The bytes of a text of any characters, as a text. -/
def ofUnicode (t : Text) : Text := ofBytes (Text.utf8 t)

/-- The text that bytes write, where they write one. -/
def toUnicode (t : Text) : Text := Text.decode (toBytes t)

/-- Texts side by side, with another one between them. -/
def joined (between : Text) (ts : List Text) : Text := between.intercalate ts

/-! ## Names -/

/-- The characters that a name starts with. -/
def isNameStart (c : Char) : Bool := c.isAlpha || c == '_'

/-- The characters of names. -/
def isNameChar (c : Char) : Bool := isNameStart c || c.isDigit

/-- Holds of the names of variables. -/
def isName (t : Text) : Bool := t.head?.any isNameStart && t.all isNameChar

/-- The name at the start of a text; empty if there is none. -/
def leadingName (t : Text) : Text :=
  if t.head?.any isNameStart then t.takeWhile isNameChar else []

/-- The name and the value of a text such as `name=value`. -/
def assignment? (t : Text) : Option (Text × Text) :=
  match t.dropWhile (· != '=') with
  | _ :: value => some (t.takeWhile (· != '='), value)
  | [] => none

/-! ## Numbers -/

/-- The value of decimal digits. -/
def digitsValue (digits : Text) : Nat :=
  digits.foldl (fun n c => n * 10 + (c.toNat - '0'.toNat)) 0

/-- Holds of the blanks that may stand around a number. -/
def isSpace (c : Char) : Bool := c == ' ' || ('\t' ≤ c && c ≤ '\r')

/-- The greatest whole number that the shell reckons with. -/
def greatest : Nat := Nat.pow 2 63 - 1

/-- The whole number that a text writes, with a sign before it and blanks around it, where `figures`
takes the digits off a text and `value` gives their value.  Nothing for other texts, and for a
number that 64 bits do not hold. -/
def integerBy? (figures : Text → Text) (value : Text → Nat) (t : Text) : Option Int :=
  let start := t.dropWhile isSpace
  let negative := start.head? == some '-'
  let body := if negative || start.head? == some '+' then start.drop 1 else start
  let found := figures body
  let n : Int := if negative then -(value found) else value found
  let rest := (body.drop found.length).dropWhile isSpace
  if found.isEmpty || Text.nonempty rest || greatest < n || n < -greatest - 1 then none else some n

/-- The whole number that a text writes in decimal. -/
def integer? (t : Text) : Option Int := integerBy? (·.takeWhile Char.isDigit) digitsValue t

/-- The number that a text writes, if it is one that commands take as an argument. -/
def number? (t : Text) : Option Nat :=
  match integer? t with
  | some n => if 0 ≤ n && n < Int.pow 2 31 then some n.toNat else none
  | none => none

/-! ## Quoting -/

/-- Text that stands between single quotes, where quotes that follow each other stand together
between double quotes; `n` bounds the pieces. -/
def singleQuotedBy : Nat → Text → Text
  | 0, _ => []
  | n + 1, t =>
    let plain := t.takeWhile (· != '\'')
    let rest := t.dropWhile (· != '\'')
    let quotes := rest.takeWhile (· == '\'')
    let written := ['\''] ++ plain ++ ['\'']
    if quotes.isEmpty then written
    else
      let after := rest.drop quotes.length
      let start := written ++ ['"'] ++ quotes ++ ['"']
      if after.isEmpty then start else start ++ singleQuotedBy n after

/-- **A text as a script can write it.** -/
def singleQuoted (t : Text) : Text := singleQuotedBy (t.length + 1) t

end TargetPicker.Shell
