import TargetPicker.Shell.Command

/-!
# What a script is read from

A reader gives the characters of a script one by one and counts the lines.  The text of an alias is
put in front of what is still to be read; while it is read, the alias does not stand for its text
again.

A *here-document* is announced by a redirection and stands in the lines that follow.  Its text gets
a number when it is announced, under which the redirection finds it later.
-/

namespace TargetPicker.Shell

/-- A piece of a script that is read as one. -/
inductive Token where
  | endOfFile
  | lineEnd
  | operator (name : String)
  /-- The sign of a redirection, with the descriptor before it. -/
  | redirection
  | word
  /-- A word that has a meaning of its own where it stands. -/
  | reserved (name : String)
  deriving DecidableEq, Repr, Inhabited

namespace Token

/-- A token as faults of the grammar name it. -/
def describe : Token → Text
  | endOfFile => "end of file".toList
  | lineEnd => "newline".toList
  | redirection => "redirection".toList
  | word => "word".toList
  | operator name | reserved name => ['"'] ++ name.toList ++ ['"']

/-- The tokens that end a list of commands. -/
def closes : Token → Bool
  | endOfFile => true
  | operator name => name == ")" || name == ";;"
  | reserved name =>
    ["do", "done", "elif", "else", "esac", "fi", "then", "\x7d"].contains name
  | _ => false

end Token

/-- The words that have a meaning of their own at the start of a command. -/
def reservedWords : List String :=
  ["!", "case", "do", "done", "elif", "else", "esac", "fi", "for", "if", "in", "then", "until",
   "while", "\x7b", "\x7d"]

/-- What is looked for in the next token. -/
structure Expectation where
  /-- Line ends before it are passed over. -/
  passesLines : Bool := false
  reserved : Bool := false
  aliases : Bool := false
  /-- Nothing in it is expanded. -/
  verbatim : Bool := false
  deriving Repr, Inhabited

namespace Expectation

/-- What one or the other looks for. -/
def or (a b : Expectation) : Expectation :=
  { passesLines := a.passesLines || b.passesLines
    reserved := a.reserved || b.reserved
    aliases := a.aliases || b.aliases
    verbatim := a.verbatim || b.verbatim }

/-- What is looked for where a command starts, after any number of line ends. -/
def ofCommand : Expectation := { passesLines := true, reserved := true, aliases := true }

/-- What is looked for where a command may go on in the same line. -/
def ofRest : Expectation := { reserved := true, aliases := true }

end Expectation

/-- A text that is being read, and the alias that it came from. -/
structure Source where
  text : Text
  aliasName : Option Text := none
  /-- The next word may be an alias too, because the text ends with a blank. -/
  goesOn : Bool := false
  deriving Repr, Inhabited

/-- How a redirection starts: the descriptor, and what it does. -/
inductive Opening where
  | file (use : FileUse)
  | copy
  | here (dropsTabs : Bool)
  deriving DecidableEq, Repr, Inhabited

/-- A here-document that was announced. -/
structure Announced where
  index : Nat
  /-- The line that ends it. -/
  delimiter : Text
  dropsTabs : Bool
  expands : Bool
  deriving Repr, Inhabited

/-- The state of reading a script. -/
structure Reader where
  /-- The texts being read, the innermost first. -/
  sources : List Source
  line : Nat := 1
  expectation : Expectation := {}
  /-- The token read last. -/
  token : Token := .lineEnd
  /-- Holds if that token is to be read once more. -/
  isBack : Bool := false
  /-- The word read last, and whether any of it was quoted. -/
  word : Word := []
  quoted : Bool := false
  /-- The redirection read last. -/
  opening : Nat × Opening := (0, .copy)
  announced : List Announced := []
  /-- The texts of here-documents that were read, by number, the last one first. -/
  texts : List (Nat × Word) := []
  /-- The number of the next here-document. -/
  nextText : Nat := 0
  aliases : List (Text × Text) := []
  /-- The aliases that the token read last cannot stand for. -/
  inUse : List Text := []
  deriving Inhabited

/-- A fault of the grammar. -/
structure GrammarError where
  line : Nat
  text : Text
  deriving Repr, Inhabited

/-- An action that reads. -/
abbrev Reading := StateT Reader (Except GrammarError)

namespace Reader

/-- A reader of a script, which cannot hold the character zero. -/
def ofText (script : Text) (line : Nat) : Reader :=
  { sources := [{ text := script.filter (· != '\x00') }], line }

/-- What is left of the script itself. -/
def left (r : Reader) : Text := (r.sources.getLast?.map (·.text)).getD []

/-- The sources without those that are at their end; and whether one of these goes on. -/
def dropEnded : List Source → Bool × List Source
  | [] => (false, [])
  | [s] => (false, [s])
  | s :: rest =>
    if s.text.isEmpty then
      let (goesOn, rest) := dropEnded rest
      (s.goesOn || goesOn, rest)
    else (false, s :: rest)

/-- A text without the line ends that a backslash takes away at its start, and their number. -/
def joinLines (lines : Nat) : Text → Nat × Text
  | '\\' :: '\n' :: rest => joinLines (lines + 1) rest
  | t => (lines, t)

end Reader

namespace Reading

/-- The next character, as it stands. -/
def next : Reading (Option Char) := do
  let r ← get
  let (goesOn, sources) := Reader.dropEnded r.sources
  let expectation := { r.expectation with aliases := r.expectation.aliases || goesOn }
  match sources with
  | { text := c :: text, aliasName, goesOn } :: rest =>
    set { r with sources := { text, aliasName, goesOn } :: rest, expectation }
    return some c
  | _ =>
    set { r with sources, expectation }
    return none

/-- The next character, after the line ends that a backslash takes away. -/
def nextJoined : Reading (Option Char) := do
  let r ← get
  let (goesOn, sources) := Reader.dropEnded r.sources
  match sources with
  | s :: rest =>
    let (lines, text) := Reader.joinLines 0 s.text
    set { r with
      sources := { s with text } :: rest
      line := r.line + lines
      expectation := { r.expectation with aliases := r.expectation.aliases || goesOn } }
    next
  | [] => return none

/-- Puts a character back. -/
def giveBack (c : Option Char) : Reading Unit := do
  match c with
  | none => pure ()
  | some c => modify fun r =>
    match r.sources with
    | s :: rest => { r with sources := { s with text := c :: s.text } :: rest }
    | [] => r

/-- Passes a character that is expected; tells whether it was there. -/
def passes (expected : Char) : Reading Bool := do
  let c ← nextJoined
  if c == some expected then return true
  else
    giveBack c
    return false

/-- Counts a line. -/
def countLine : Reading Unit := modify fun r => { r with line := r.line + 1 }

/-- The characters that come next and are of `p`. -/
def taking (p : Char → Bool) : Nat → Reading Text
  | 0 => return []
  | n + 1 => do
    let c ← nextJoined
    match c with
    | some d =>
      if p d then return d :: (← taking p n)
      else
        giveBack c
        return []
    | none => return []

/-- Passes what is left of the line. -/
def skipLine : Reading Unit := modify fun r =>
  match r.sources with
  | s :: rest => { r with sources := { s with text := s.text.dropWhile (· != '\n') } :: rest }
  | [] => r

/-- Sets what is looked for in the next token. -/
def expect (expectation : Expectation) : Reading Unit := modify fun r => { r with expectation }

/-- Lets the token read last be read once more. -/
def stepBack : Reading Unit := modify fun r => { r with isBack := true }

/-- Gives a fault of the grammar. -/
def fail {α : Type} (text : Text) : Reading α := do
  throw { line := (← get).line, text := "Syntax error: ".toList ++ text }

/-- Refuses the token read last. -/
def refuse {α : Type} : Reading α := do
  fail ((← get).token.describe ++ " unexpected".toList)

/-- Refuses the token read last where another one was expected. -/
def refuseFor {α : Type} (expected : Token) : Reading α := do
  fail ((← get).token.describe ++ " unexpected (expecting ".toList ++ expected.describe ++ [')'])

/-- Remembers a token as the one read last. -/
def found (token : Token) : Reading Token := do
  modify fun r => { r with token }
  return token

/-- The text of an alias that a word stands for, unless it is just being read. -/
def alias? (name : Text) : Reading (Option Text) := do
  let r ← get
  if r.inUse.contains name then return none
  else return (r.aliases.find? fun a => a.1 == name).map (·.2)

/-- Puts the text of an alias in front. -/
def insertAlias (name text : Text) : Reading Unit := modify fun r =>
  let goesOn := text.getLast? == some ' ' || text.getLast? == some '\t'
  { r with sources := { text, aliasName := some name, goesOn } :: r.sources }

/-- Announces a here-document; gives its number. -/
def announce (delimiter : Text) (dropsTabs expands : Bool) : Reading Nat := do
  let r ← get
  let here : Announced := { index := r.nextText, delimiter, dropsTabs, expands }
  set { r with announced := r.announced ++ [here], nextText := r.nextText + 1 }
  return here.index

/-- Passes the line that ends a here-document, if it comes next; tabs at the start of a line are
passed in any case where they are dropped. -/
def endsHere (delimiter : Text) (dropsTabs : Bool) : Reading Bool := do
  let r ← get
  match r.sources with
  | s :: rest =>
    let text := if dropsTabs then s.text.dropWhile (· == '\t') else s.text
    let ends := text.takeWhile (· != '\n') == delimiter
    let after := (text.dropWhile (· != '\n')).drop 1
    set { r with
      sources := { s with text := if ends then after else text } :: rest
      line := if ends then r.line + 1 else r.line }
    return ends
  | [] => return true

end Reading

end TargetPicker.Shell
