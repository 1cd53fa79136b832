import TargetPicker.Shell.Arithmetic
import TargetPicker.Shell.Program.Basic
import TargetPicker.Shell.Regex

/-!
# Reckoning with arguments

`expr` reckons with numbers and texts that it is given as arguments.  The operators by rank, the
weakest first: `|`, `&`, comparisons, sums, products, and the match of an expression.
-/

namespace TargetPicker.Shell.Program.Expr

/-- Holds of values that count as false. -/
def isNull (t : Text) : Bool := t.isEmpty || integer? t == some 0

/-- Operators by rank, the weakest first. -/
def ranks : List (List String) :=
  [["|"], ["&"], ["<", "<=", "=", "!=", ">=", ">"], ["+", "-"], ["*", "/", "%"], [":"]]

/-- What the match of an expression at the start of a text gives: the text of its group, or the
number of characters. -/
def matchOf (t pattern : Text) : Except Text Text :=
  match Regex.ofText? pattern with
  | none => .error "Unmatched [, [^, [:, [., or [=".toList
  | some r => .ok (match r.longest? t with
    | some s => if r.hasGroups then s.group else Text.decimal (t.length - s.rest.length)
    | none => if r.hasGroups then [] else ['0'])

/-- The value of two values joined by an operator, or what is wrong. -/
def apply (operator : String) (a b : Text) : Except Text Text :=
  let truth (p : Bool) : Except Text Text := .ok (if p then ['1'] else ['0'])
  let order : Ordering := match integer? a, integer? b with
    | some m, some n => compare m n
    | _, _ => compareOfLessAndEq a b
  let reckon (f : Int → Int → Except Text Int) : Except Text Text :=
    match integer? a, integer? b with
    | some m, some n => (f m n).map decimal
    | _, _ => .error "non-integer argument".toList
  let divide (f : Int → Int → Int) (m n : Int) : Except Text Int :=
    if n == 0 then .error "division by zero".toList else .ok (f m n)
  match operator with
  | "|" => .ok (if !isNull a then a else if !isNull b then b else ['0'])
  | "&" => .ok (if isNull a || isNull b then ['0'] else a)
  | "<" => truth (order == .lt)
  | "<=" => truth (order != .gt)
  | "=" => truth (order == .eq)
  | "!=" => truth (order != .eq)
  | ">=" => truth (order != .lt)
  | ">" => truth (order == .gt)
  | "+" => reckon fun m n => .ok (m + n)
  | "-" => reckon fun m n => .ok (m - n)
  | "*" => reckon fun m n => .ok (m * n)
  | "/" => reckon (divide Int.tdiv)
  | "%" => reckon (divide Int.tmod)
  | _ => matchOf a b

mutual

/-- The value of an expression with operators from a rank on, at the start of some arguments after
the argument `before`, and the arguments that are left. -/
def value : Nat → Nat → Text → List Text → Except Text (Text × List Text)
  | 0, _, _, _ => .error []
  | n + 1, rank, before, arguments => do
    match ranks[rank]?, arguments with
    | some operators, _ =>
      let (a, rest) ← value n (rank + 1) before arguments
      valueWith n rank operators a rest
    | none, [] => .error ("syntax error: missing argument after ".toList ++ quoted before)
    | none, a :: t :: rest =>
      if a == "length".toList then return (Text.decimal t.length, rest) else return (a, t :: rest)
    | none, [a] => return (a, [])
termination_by structural n => n

/-- The value of an expression that goes on with operators of a rank, and the arguments that are
left. -/
def valueWith : Nat → Nat → List String → Text → List Text → Except Text (Text × List Text)
  | n + 1, rank, operators, a, t :: rest => do
    if operators.contains (String.ofList t) then
      let (b, rest) ← value n (rank + 1) t rest
      valueWith n rank operators (← apply (String.ofList t) a b) rest
    else return (a, t :: rest)
  | _, _, _, a, rest => .ok (a, rest)
termination_by structural n => n

end

end Expr

/-- Writes the value of its arguments; a value that counts as false is told by the status. -/
def expr (arguments : List Text) : Act Nat := do
  match Expr.value (10 * arguments.length + 10) 0 [] arguments with
  | .ok (value, []) =>
    putLine value
    return if Expr.isNull value then 1 else 0
  | .ok (_, t :: _) =>
    say ("syntax error: unexpected argument ".toList ++ quoted t)
    return 2
  | .error why =>
    say why
    return 2

end TargetPicker.Shell.Program
