import TargetPicker.Text.Unprintable

/-!
# Quoted texts

A log record shows a text between double quotes, on one line and with nothing hidden.  The quote
and the backslash get a backslash, four controls have letters of their own, and any other
unprintable character is written by its number in hexadecimal.  The single quote stands for
itself.
-/

namespace TargetPicker.Text

/-- How one character is written between double quotes. -/
def escaped (c : Char) : Text :=
  match c with
  | '"' => ['\\', '"']
  | '\\' => ['\\', '\\']
  | '\t' => ['\\', 't']
  | '\r' => ['\\', 'r']
  | '\n' => ['\\', 'n']
  | '\x00' => ['\\', '0']
  | c =>
    if isPrintable c then [c]
    else ['\\', 'u', '\x7b'] ++ hexadecimal c.toNat ++ ['\x7d']

/-- **The quoted form of a text.** -/
def quoted (t : Text) : Text := ['"'] ++ t.flatMap escaped ++ ['"']

end TargetPicker.Text
