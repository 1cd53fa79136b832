import TargetPicker.Host.FileTree
import TargetPicker.Shell.Basic

/-!
# Conditions

The questions of `test` about texts, numbers and files, perhaps after `!` (`Condition.holds`).
-/

namespace TargetPicker.Shell.Condition

/-- A fault in a condition, as it is shown. -/
abbrev Answer := Except Text

/-- The questions about two texts. -/
def binaryOperators : List String := ["=", "!=", "-eq", "-ne", "-ge", "-gt", "-le", "-lt"]

/-- The questions about one text. -/
def unaryOperators : List String :=
  ["-r", "-w", "-x", "-e", "-f", "-d", "-c", "-p", "-s", "-t", "-z", "-n", "-h", "-L"]

/-- A whole number in decimal, or the fault that it is none. -/
def number (t : Text) : Answer Int :=
  match integer? t with
  | some n => .ok n
  | none => .error ("Illegal number: ".toList ++ t)

/-- Answers a question about two texts. -/
def binary (operator : String) (a b : Text) : Answer Bool :=
  match operator with
  | "=" => .ok (a == b)
  | "!=" => .ok (a != b)
  | "-eq" => do return (← number a) == (← number b)
  | "-ne" => do return (← number a) != (← number b)
  | "-lt" => do return decide ((← number a) < (← number b))
  | "-le" => do return decide ((← number a) ≤ (← number b))
  | "-gt" => do return decide ((← number a) > (← number b))
  | _ => do return decide ((← number a) ≥ (← number b))

/-- Answers a question about one text. -/
def unary (tree : FileTree) (operator : String) (a : Text) : Answer Bool :=
  let entry : Option Entry := (tree.lookup (toUnicode a)).toOption.map (·.2)
  let isLink := match tree.lookupItself (toUnicode a) with
    | .ok (_, .link _) => true
    | _ => false
  match operator, entry with
  | "-n", _ => .ok (Text.nonempty a)
  | "-z", _ => .ok a.isEmpty
  | "-t", _ => do
    let _ ← number a
    return false
  | "-h", _ | "-L", _ => .ok isLink
  | "-f", some (.file ..) | "-f", some (.program _) => .ok true
  | "-d", some .directory => .ok true
  | "-c", some (.device _) => .ok true
  | "-p", some .pipe => .ok true
  | "-s", some (.file content _) => .ok (!content.isEmpty)
  | "-s", some .directory | "-s", some (.program _) => .ok true
  | "-x", some (.file _ executable) => .ok executable
  | "-x", some .directory | "-x", some (.program _) => .ok true
  | "-e", some _ | "-r", some _ | "-w", some _ => .ok true
  | _, _ => .ok false

/-- **The truth of a condition**, by the number of its words.  A word alone asks whether it is not
empty. -/
def holds (tree : FileTree) : List Text → Answer Bool
  | [] => .ok false
  | [a] => .ok (Text.nonempty a)
  | ['!'] :: rest => (holds tree rest).map (!·)
  | [a, b] =>
    if unaryOperators.contains (String.ofList a) then unary tree (String.ofList a) b
    else if binaryOperators.contains (String.ofList b) then
      .error (b ++ ": argument expected".toList)
    else unexpected a
  | [a, b, c] =>
    if binaryOperators.contains (String.ofList b) then binary (String.ofList b) a c
    else unexpected a
  | a :: _ => unexpected a
where
  /-- The fault that a word is no question. -/
  unexpected (word : Text) : Answer Bool := .error (word ++ ": unexpected operator".toList)

end TargetPicker.Shell.Condition
