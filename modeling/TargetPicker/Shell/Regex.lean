import TargetPicker.Shell.Pattern

/-!
# Regular expressions

The expressions of `grep`, `sed` and `expr`: characters, a dot for any of them and brackets for some,
each perhaps with a star behind it, and groups.  An expression may be bound to the start of a text by
a caret, and to its end by a dollar sign.

An expression is matched at a place of a text.  All places are found at which a match can end
(`Regex.ends`), and of these the last one in the text counts (`Regex.longest?`).
-/

namespace TargetPicker.Shell

namespace Regex

/-- A part of an expression. -/
inductive Part where
  | once (piece : Glob)
  | repeated (piece : Glob)
  | opening
  | closing
  deriving DecidableEq, Repr, Inhabited

end Regex

/-- A regular expression. -/
structure Regex where
  atStart : Bool
  parts : List Regex.Part
  atEnd : Bool
  deriving DecidableEq, Repr, Inhabited

namespace Regex

/-! ## Reading -/

/-- The character, dot or bracket at the start of a text, and what follows it. -/
def piece? : Text → Option (Glob × Text)
  | [] => none
  | '.' :: t => some (.anyChar, t)
  | '\\' :: c :: t => some (.exact c, t)
  | '[' :: '^' :: t => (Glob.members? (t.length + 1) t).map fun (ms, t) => (.oneOf true ms, t)
  | '[' :: t => (Glob.members? (t.length + 1) t).map fun (ms, t) => (.oneOf false ms, t)
  | c :: t => some (.exact c, t)

/-- The parts that a text writes, if its brackets are closed; `n` bounds their number. -/
def partsOf? : Nat → Text → Option (List Part)
  | 0, _ => some []
  | _ + 1, [] => some []
  | n + 1, '\\' :: '(' :: t => (partsOf? n t).map (.opening :: ·)
  | n + 1, '\\' :: ')' :: t => (partsOf? n t).map (.closing :: ·)
  | n + 1, t =>
    match piece? t with
    | none => none
    | some (piece, '*' :: t) => (partsOf? n t).map (.repeated piece :: ·)
    | some (piece, t) => (partsOf? n t).map (.once piece :: ·)

/-- **The expression that a text writes.** -/
def ofText? (t : Text) : Option Regex :=
  let atStart := t.head? == some '^'
  let t := if atStart then t.tail else t
  let atEnd := t.getLast? == some '$' && t.dropLast.getLast? != some '\\'
  let t := if atEnd then t.dropLast else t
  (partsOf? t.length t).map fun parts => { atStart, parts, atEnd }

/-- Holds if an expression has groups. -/
def hasGroups (r : Regex) : Bool := r.parts.contains .opening

/-! ## Matching -/

/-- A place in a text: what follows it, what followed the place where a group was opened, and what
the last group has matched. -/
structure Spot where
  rest : Text
  opened : Text := []
  group : Text := []
  deriving Repr, Inhabited

/-- The places at which a match of parts from a place can end. -/
def ends : List Part → Spot → List Spot
  | [], s => [s]
  | .opening :: parts, s => ends parts { s with opened := s.rest }
  | .closing :: parts, s =>
    ends parts { s with group := s.opened.take (s.opened.length - s.rest.length) }
  | .once piece :: parts, s =>
    match s.rest with
    | c :: t => if Glob.accepts [piece] [c] then ends parts { s with rest := t } else []
    | [] => []
  | .repeated piece :: parts, s =>
    let most := (s.rest.takeWhile fun c => Glob.accepts [piece] [c]).length
    (List.range (most + 1)).reverse.flatMap fun n => ends parts { s with rest := s.rest.drop n }

/-- The longest match at the start of a text. -/
def longest? (r : Regex) (t : Text) : Option Spot :=
  let found := (ends r.parts { rest := t }).filter fun s => !r.atEnd || s.rest.isEmpty
  found.foldl (fun (best : Option Spot) s => match best with
    | none => some s
    | some b => if s.rest.length < b.rest.length then some s else some b) none

/-- The first match in a text: what stands before it, and its end. -/
def find? (r : Regex) (t : Text) : Option (Text × Spot) :=
  (List.range (if r.atStart then 1 else t.length + 1)).findSome? fun n =>
    (r.longest? (t.drop n)).map fun s => (t.take n, s)

end Regex

end TargetPicker.Shell
