import TargetPicker.Shell.Format
import TargetPicker.Shell.Program.Basic
import TargetPicker.Shell.Regex

/-!
# Programs that look into lines

They order lines, cut them into fields, change their characters, and search them for expressions.
-/

namespace TargetPicker.Shell.Program

open Act

/-! ## Fields -/

/-- The part of a line by which it is ordered: from the field that `-k` names, where `-t` names what
stands between fields, and all of it otherwise. -/
def sortKey (o : Options) (line : Text) : Text :=
  match o.value? 't', o.value? 'k' with
  | some [c], some field => joined [c] ((line.splitOn c).drop (digitsValue field - 1))
  | _, _ => line

/-- Writes lines in order; those with the same key are ordered as a whole. -/
def sort (arguments : List Text) : Act Nat :=
  withOptions "r" "kt" 2 arguments fun o => do
    let (parts, ok) ← inputs o.operands
    let notAfter (a b : Text) : Bool :=
      if sortKey o a == sortKey o b then a.notAfter b else (sortKey o a).notAfter (sortKey o b)
    let lines := (parts.flatMap fun part => bareLines part.2).mergeSort fun a b =>
      if o.has 'r' then notAfter b a else notAfter a b
    put (unlines lines)
    return if ok then 0 else 2

/-- Writes the fields of lines that `-f` lists, where `-d` names what stands between fields.  A line
without that is written as a whole. -/
def cut (arguments : List Text) : Act Nat :=
  withOptions "" "df" 1 arguments fun o => do
    let c := ((o.value? 'd').getD ['\t']).headD '\x00'
    let wanted := (((o.value? 'f').getD []).splitOn ',').map digitsValue
    let (parts, ok) ← inputs o.operands
    let line (t : Text) : Text :=
      let fields := t.splitOn c
      if fields.length ≤ 1 then t
      else joined [c] ((fields.zipIdx 1).filterMap fun (field, n) =>
        if wanted.contains n then some field else none)
    put (unlines ((parts.flatMap fun part => bareLines part.2).map line))
    return if ok then 0 else 1

/-! ## Characters -/

/-- The characters that a text lists; `n` bounds their number. -/
def listed : Nat → Text → Text
  | n + 1, '\\' :: t => let (c, t) := Format.escape t; c :: listed n t
  | n + 1, c :: t => c :: listed n t
  | _, _ => []

/-- Replaces what comes by the image of its characters; `n` bounds the chunks. -/
def replaceFrom (image : Char → Char) : Nat → Act Nat
  | 0 => return 0
  | n + 1 => do
    match ← readSome 0 with
    | .error why => fail ("read error: ".toList ++ why)
    | .ok [] => return 0
    | .ok t =>
      put (t.map image)
      replaceFrom image n

/-- Replaces the characters that the first operand lists by those that the second one does; the last
one of those stands for all that are missing. -/
def tr (arguments : List Text) : Act Nat :=
  withOptions "" "" 1 arguments fun o => do
    match o.operands.map fun t => listed t.length t with
    | [source, target] =>
      match target.getLast? with
      | none => fail "when not truncating set1, string2 must be non-empty".toList
      | some last =>
        let pairs := (source.zip (target ++ List.replicate source.length last)).reverse
        let image (c : Char) : Char := ((pairs.find? fun p => p.1 == c).map (·.2)).getD c
        replaceFrom image manyTimes
    | _ => refuse "wrong number of operands".toList

/-! ## Searching -/

/-- Writes the lines of files in which an expression occurs, or with `-v` the others: after the name
of the file if there are several and the number of the line with `-n`.  With `-c` only their number
is written. -/
def grep (arguments : List Text) : Act Nat :=
  withOptions "cnv" "" 2 arguments fun o => do
    match o.operands with
    | [] => refuse "no pattern".toList
    | pattern :: paths =>
      match Regex.ofText? pattern with
      | none =>
        say "Unmatched [, [^, [:, [., or [=".toList
        return 2
      | some r =>
        let (parts, ok) ← inputs paths
        let isWanted (line : Text × Nat) : Bool := (r.find? line.1).isSome != o.has 'v'
        let shown (line : Text × Nat) : Text :=
          if o.has 'n' then Text.decimal line.2 ++ [':'] ++ line.1 else line.1
        let found := parts.map fun (path, t) =>
          (if 1 < paths.length then path ++ [':'] else [], ((bareLines t).zipIdx 1).filter isWanted)
        put (unlines (found.flatMap fun (name, lines) =>
          (if o.has 'c' then [Text.decimal lines.length] else lines.map shown).map (name ++ ·)))
        return if !ok then 2 else if found.any fun f => !f.2.isEmpty then 0 else 1

/-! ## Replacing -/

/-- What a match is replaced by: `\1` stands for what its group has matched, and a backslash lets
another character stand for itself. -/
def replacement (group : Text) : Text → Text
  | '\\' :: '1' :: t => group ++ replacement group t
  | '\\' :: c :: t => c :: replacement group t
  | c :: t => c :: replacement group t
  | [] => []

/-- The expression, the replacement and the flags of a command such as `s/a/b/p`. -/
def substitution? (command : Text) : Option (Regex × Text × Text) :=
  match command with
  | 's' :: c :: t =>
    match t.splitOn c with
    | [pattern, target, flags] => (Regex.ofText? pattern).map fun r => (r, target, flags)
    | _ => none
  | _ => none

/-- Replaces the first match of each line.  With `-n` only the lines are written of which the command
says so, where something was replaced. -/
def sed (arguments : List Text) : Act Nat :=
  withOptions "n" "" 1 arguments fun o => do
    match o.operands with
    | [] => refuse "no script".toList
    | script :: paths =>
      match substitution? script with
      | none => fail "-e expression #1: unknown command".toList
      | some (r, target, flags) =>
        let (parts, ok) ← inputs paths
        let lines (line : Text) : List Text :=
          match r.find? line with
          | none => if o.has 'n' then [] else [line]
          | some (before, s) =>
            let line := before ++ replacement s.group target ++ s.rest
            (if o.has 'n' then [] else [line]) ++ if flags.contains 'p' then [line] else []
        put (unlines ((parts.flatMap fun part => bareLines part.2).flatMap lines))
        return if ok then 0 else 2

end TargetPicker.Shell.Program
