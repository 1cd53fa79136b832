import TargetPicker.Shell.Basic

/-!
# Commands

What a script is made of: commands, redirections and words.

A *word* is a list of pieces, as it was written: characters that may have a meaning in a pattern,
characters that stand for themselves, quotes, and what is to be replaced when the word is expanded.
Words and commands contain each other, because the output of a command can be part of a word.
-/

namespace TargetPicker.Shell

/-- What an expansion does with a parameter. -/
inductive Use where
  | value
  /-- The word, if the parameter is not set. -/
  | otherwise
  /-- The word, if the parameter is set. -/
  | instead
  /-- Sets the parameter to the word, if it is not set. -/
  | assign
  /-- Fails with the word, if the parameter is not set. -/
  | demand
  | size
  /-- Takes the shortest or longest start away that is of the word's pattern. -/
  | withoutStart (longest : Bool)
  /-- The same for the end. -/
  | withoutEnd (longest : Bool)
  /-- No expansion of this form is known. -/
  | unknown
  deriving DecidableEq, Repr, Inhabited

/-- How a redirection opens a file. -/
inductive FileUse where
  | read
  | write
  /-- Written from the start, also where files are protected from that. -/
  | overwrite
  | append
  | update
  deriving DecidableEq, Repr, Inhabited

mutual

/-- A piece of a word. -/
inductive Piece where
  | plain (c : Char)
  /-- A character that stands for itself. -/
  | exact (c : Char)
  /-- A single or double quote, opening or closing. -/
  | quote
  /-- A parameter; with `orEmpty` an empty one counts as one that is not set. -/
  | parameter (name : Text) (use : Use) (orEmpty : Bool) (word : List Piece)
  | output (command : Command)
  | arithmetic (expression : List Piece)

/-- A redirection of one descriptor. -/
inductive Redirect where
  | file (descriptor : Nat) (use : FileUse) (path : List Piece)
  /-- A copy of another descriptor, or closed for a hyphen. -/
  | copy (descriptor : Nat) (source : List Piece)
  /-- Reads a text of the script, given by its number; it is expanded unless its mark was
  quoted. -/
  | here (descriptor : Nat) (text : Nat) (expands : Bool)

/-- A command.  Lines are those on which it starts. -/
inductive Command where
  /-- No command at all. -/
  | nothing
  | plain (line : Nat) (assignments words : List (List Piece)) (redirects : List Redirect)
  | sequence (first second : Command)
  | both (first second : Command)
  | either (first second : Command)
  | negated (command : Command)
  | pipeline (background : Bool) (stages : List Command)
  | background (line : Option Nat) (command : Command) (redirects : List Redirect)
  | subshell (line : Nat) (command : Command) (redirects : List Redirect)
  | redirected (line : Nat) (command : Command) (redirects : List Redirect)
  /-- Without `no`, nothing is done where the test fails. -/
  | conditional (test yes : Command) (no : Option Command)
  /-- Repeats the body while the test gives `wanted`. -/
  | loop (wanted : Bool) (test body : Command)
  | each (line : Nat) (name : Text) (words : List (List Piece)) (body : Command)
  | choice (line : Nat) (word : List Piece) (arms : List (List (List Piece) × Command))
  | function (name : Text) (body : Command)

end

instance : Inhabited Piece := ⟨.quote⟩

instance : Inhabited Redirect := ⟨.here 0 0 false⟩

instance : Inhabited Command := ⟨.nothing⟩

/-- A word as it was written. -/
abbrev Word := List Piece

namespace Word

/-- The text of a word that is nothing but plain characters. -/
def text? (w : Word) : Option Text :=
  w.mapM fun piece => match piece with
    | .plain c => some c
    | _ => none

/-- The plain characters at the start of a word. -/
def leading (w : Word) : Text :=
  match w with
  | .plain c :: rest => c :: leading rest
  | _ => []

/-- Holds of words such as `name=value`. -/
def isAssignment (w : Word) : Bool :=
  let start := leading w
  let name := leadingName start
  Text.nonempty name && (start.drop name.length).head? == some '='

/-- The characters of a word without its quotes, for words that are never expanded. -/
def unquoted (w : Word) : Text :=
  w.filterMap fun piece => match piece with
    | .plain c | .exact c => some c
    | _ => none

end Word

end TargetPicker.Shell
