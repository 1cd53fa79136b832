import TargetPicker.Input.LineSource
import TargetPicker.Log.Record

/-!
# Reading a makefile

Lines are read one at a time, with at most one rule *open*: the rule whose recipe may still go on.

* A recipe line extends the open rule.  It is not recognised as anything else.
* Any other line closes the open rule and is then recognised; a rule header opens the next one.
* A recipe line with no rule open is recognised like every other line, and is none of the forms.

What this establishes is a list of findings: each recognised line, and each rule where it closes.
The rules and variables of the makefile and the records of the log are two views of that one list.

If reading fails there is no makefile, however much was read before; the log still shows all that
was found, with the open rule closed by the failure.
-/

namespace TargetPicker

/-- What reading establishes, in the order in which it does. -/
inductive Finding where
  /-- A line was recognised. -/
  | line (number : Nat) (kind : LineKind)
  /-- A rule was read to the end of its recipe. -/
  | rule (r : Rule)
  deriving DecidableEq, Repr, Inhabited

/-- A rule whose recipe may go on. -/
structure OpenRule where
  target : Text
  prerequisites : Text
  lineNumber : Nat
  /-- The commands of the recipe so far, the last one first. -/
  commands : List Text
  deriving Repr, Inhabited

/-- The state between two lines. -/
structure Recognizer where
  openRule : Option OpenRule
  findings : Array Finding
  deriving Repr, Inhabited

/-! ## From lines to findings -/

/-- The rule with the recipe that it has now. -/
def OpenRule.close (identifier : Text) (r : OpenRule) : Rule :=
  { target := r.target
    dependencies := dependencyNames r.prerequisites
    body := r.commands.reverse
    identifier
    lineNumber := r.lineNumber }

/-- The rule that a line opens. -/
def OpenRule.ofKind? (number : Nat) : LineKind → Option OpenRule
  | .ruleHeader target prerequisites =>
    some { target, prerequisites, lineNumber := number, commands := [] }
  | _ => none

namespace Recognizer

/-- Before the first line. -/
def empty : Recognizer := { openRule := none, findings := #[] }

/-- Closes the open rule, if there is one. -/
def close (identifier : Text) (s : Recognizer) : Recognizer :=
  match s.openRule with
  | none => s
  | some r => { openRule := none, findings := s.findings.push (.rule (r.close identifier)) }

/-- Recognises a line that extends no rule. -/
def recognize (identifier : Text) (s : Recognizer) (l : Line) : Recognizer :=
  let kind := LineKind.ofText l.text
  { openRule := OpenRule.ofKind? l.number kind
    findings := (s.close identifier).findings.push (.line l.number kind) }

/-- **Takes one line in.** -/
def step (identifier : Text) (s : Recognizer) (l : Line) : Recognizer :=
  match s.openRule, recipeCommand? l.text with
  | some r, some command => { s with openRule := some { r with commands := command :: r.commands } }
  | _, _ => s.recognize identifier l

end Recognizer

/-- **All that the lines of a makefile establish.** -/
def findings (identifier : Text) (lines : List Line) : List Finding :=
  ((lines.foldl (Recognizer.step identifier) Recognizer.empty).close identifier).findings.toList

/-! ## The two views of the findings -/

namespace Finding

/-- The rule that a finding closes. -/
def rule? : Finding → Option Rule
  | rule r => some r
  | line .. => none

/-- The variable that a recognised line defines. -/
def definition? (identifier : Text) : Finding → Option Variable
  | line number (.directive name rest) =>
    some { name, assignment := rest, kind := .special, identifier, lineNumber := number }
  | line number (.simple name value) =>
    some { name, assignment := value, kind := .simple, identifier, lineNumber := number }
  | line number (.expanded name value) =>
    some { name, assignment := value, kind := .expanded, identifier, lineNumber := number }
  | _ => none

/-- The record of a finding. -/
def record (identifier : Text) : Finding → Record
  | line number kind => .recognized identifier number kind
  | rule r => .rule r.target r.lineNumber r.body.length

end Finding

/-- The makefile that the findings add up to. -/
def Makefile.ofFindings (identifier : Text) (found : List Finding) : Makefile :=
  { identifier
    rules := found.filterMap Finding.rule?
    definitions := found.filterMap (Finding.definition? identifier) }

/-! ## Reading -/

/-- The outcome of reading a makefile, and the records made on the way. -/
structure Reading where
  result : Except SourceError Makefile
  log : List Record
  deriving Inhabited

/-- The source of lines that opening a path gives, with the record of it. -/
def LineSource.ofOpened (path : Text) :
    Except Failure (List ReadEvent) → Except SourceError LineSource × List Record
  | .error cause => (.error (.opening path cause), [])
  | .ok events => (.ok (LineSource.ofEvents path events), [.opened path])

/-- Reads a makefile from a source of lines. -/
def LineSource.parse (s : LineSource) : Reading :=
  let (lines, failure) := s.untilFailure
  let found := findings s.identifier lines
  let records := found.map (Finding.record s.identifier)
  match failure with
  | some e => { result := .error e, log := records }
  | none =>
    let m := Makefile.ofFindings s.identifier found
    { result := .ok m
      log := records ++ [.parsed s.identifier m.rules.length m.definitions.length] }

namespace Makefile

/-- **Reads a makefile** from a reader. -/
def parse (identifier : Text) (events : List ReadEvent) : Reading :=
  (LineSource.ofEvents identifier events).parse

/-- Reads a makefile from its contents. -/
def parseBytes (identifier : Text) (content : Bytes) : Reading :=
  parse identifier [.bytes content]

/-- The name of a makefile that was given as a text alone. -/
def stringIdentifier : Text := "<string>".toList

/-- Reads a makefile that was opened, or could not be. -/
def parseOpened (path : Text) (opened : Except Failure (List ReadEvent)) : Reading :=
  match LineSource.ofOpened path opened with
  | (.error e, log) => { result := .error e, log }
  | (.ok s, log) => { s.parse with log := log ++ s.parse.log }

end Makefile

end TargetPicker
