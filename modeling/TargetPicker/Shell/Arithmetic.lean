import TargetPicker.Shell.Basic

/-!
# Arithmetic of the shell

Whole numbers of 64 bits with the signs of sums and products and with assignments, as they stand in
`$((…))`.  An expression is evaluated while it is read.
-/

namespace TargetPicker.Shell

/-! ## Numbers -/

/-- Holds of the digits of octal numbers. -/
def isOctal (c : Char) : Bool := '0' ≤ c && c ≤ '7'

/-- Holds of the digits of hexadecimal numbers. -/
def isHexadecimal (c : Char) : Bool := c.isDigit || ('a' ≤ c.toLower && c.toLower ≤ 'f')

/-- The digits of a number at the start of a text, after its mark of a base. -/
def leadingNumber (t : Text) : Text :=
  let hexadecimal := (t.drop 2).takeWhile isHexadecimal
  if (['0', 'x'].isPrefixOf t || ['0', 'X'].isPrefixOf t) && Text.nonempty hexadecimal then
    t.take 2 ++ hexadecimal
  else if t.head? == some '0' then t.takeWhile isOctal
  else t.takeWhile Char.isDigit

/-- The value of a digit, in bases up to sixteen. -/
def digitValue (c : Char) : Nat :=
  if c.isDigit then c.toNat - '0'.toNat else c.toLower.toNat - 'a'.toNat + 10

/-- The value of digits. -/
def valueIn (base : Nat) (t : Text) : Nat := t.foldl (fun n c => n * base + digitValue c) 0

/-- The value of a number: hexadecimal after `0x`, octal after `0`, or decimal. -/
def numberValue : Text → Nat
  | '0' :: 'x' :: t => valueIn 16 t
  | '0' :: 'X' :: t => valueIn 16 t
  | '0' :: t => valueIn 8 t
  | t => valueIn 10 t

/-- A number in decimal. -/
def decimal (n : Int) : Text :=
  if n < 0 then '-' :: Text.decimal n.natAbs else Text.decimal n.natAbs

/-- A number as 64 bits hold it. -/
def wrap (n : Int) : Int := Int.bmod n (Nat.pow 2 64)

namespace Arithmetic

/-! ## Signs -/

/-- A piece of an expression. -/
inductive Sign where
  | number (n : Int)
  | name (t : Text)
  | operator (t : String)
  /-- A character that no expression holds. -/
  | bad
  | ending
  deriving DecidableEq, Repr, Inhabited

/-- The operators. -/
def operators : List String := ["=", "+", "-", "*", "/", "%", "(", ")"]

/-- The signs of an expression, up to the first bad one; `n` bounds their number. -/
def signsBy : Nat → Text → List Sign
  | 0, _ => []
  | n + 1, t =>
    match t with
    | [] => []
    | c :: rest =>
      if c == ' ' || c == '\t' || c == '\n' then signsBy n rest
      else if c.isDigit then
        let digits := leadingNumber t
        .number (min greatest (numberValue digits)) :: signsBy n (t.drop digits.length)
      else if isNameStart c then
        let name := leadingName t
        .name name :: signsBy n (t.drop name.length)
      else match operators.find? fun o => o.toList.isPrefixOf t with
        | some o => .operator o :: signsBy n (t.drop o.length)
        | none => [.bad]

/-- The signs of an expression. -/
def signs (t : Text) : List Sign := signsBy (t.length + 1) t

/-! ## Operators -/

/-- How weakly a binary operator binds. -/
def rank? (o : Sign) : Option Nat :=
  match o with
  | .operator t => [["*", "/", "%"], ["+", "-"]].findIdx? fun level => level.contains t
  | _ => none

/-- Why an expression has no value. -/
inductive Fault where
  /-- The expression is not well formed, or divides by zero. -/
  | wrong (why : String)
  /-- A variable that holds no number. -/
  | notANumber (value : Text)
  /-- A variable that cannot be changed. -/
  | readOnly (name : Text)
  deriving DecidableEq, Repr, Inhabited

/-- The value of a binary operator. -/
def apply (operator : String) (a b : Int) : Except Fault Int :=
  match operator with
  | "+" => .ok (wrap (a + b))
  | "-" => .ok (wrap (a - b))
  | "*" => .ok (wrap (a * b))
  | _ =>
    if b == 0 then .error (.wrong "division by zero")
    else .ok (wrap (if operator == "/" then Int.tdiv a b else Int.tmod a b))

/-! ## Evaluation -/

/-- What an expression can ask about variables. -/
structure Variables where
  value : Text → Option Text
  isReadOnly : Text → Bool

/-- The state of evaluation. -/
structure State where
  bindings : Variables
  /-- The signs that are left. -/
  left : List Sign
  /-- The sign after the operand that was read last. -/
  ahead : Sign := .ending
  /-- The variables that were set, the last one first. -/
  assigned : List (Text × Int) := []

/-- An action of evaluation. -/
abbrev Reckoning := StateT State (Except Fault)

namespace Reckoning

/-- Gives a fault. -/
def wrong {α : Type} (why : String) : Reckoning α := throw (.wrong why)

/-- The next sign.  Nothing follows a bad one. -/
def next : Reckoning Sign := do
  let s ← get
  match s.left with
  | [] => return .ending
  | .bad :: _ => return .bad
  | sign :: left =>
    set { s with left }
    return sign

/-- Remembers the sign after an operand. -/
def lookAhead (ahead : Sign) : Reckoning Unit := modify fun s => { s with ahead }

/-- The sign after the operand read last. -/
def ahead : Reckoning Sign := do return (← get).ahead

/-- The value of a variable; one without a value counts as zero. -/
def valueOf (name : Text) : Reckoning Int := do
  let s ← get
  match s.assigned.find? fun a => a.1 == name with
  | some (_, n) => return n
  | none =>
    let t := (s.bindings.value name).getD []
    if t.all isSpace then return 0
    else match integerBy? leadingNumber numberValue t with
      | some n => return n
      | none => throw (.notANumber t)

/-- Gives a variable a value, which is also that of the assignment. -/
def assign (name : Text) (n : Int) : Reckoning Int := do
  let s ← get
  if s.bindings.isReadOnly name then throw (.readOnly name)
  set { s with assigned := (name, n) :: s.assigned }
  return n

mutual

/-- An operand that starts with a sign; `after` is the sign after that one. -/
def operand : Nat → Sign → Sign → Reckoning Int
  | 0, _, _ => wrong "expecting primary"
  | n + 1, sign, after => do
    match sign with
    | .operator "(" =>
      let value ← whole n after
      if (← ahead) != .operator ")" then wrong "expecting ')'"
      lookAhead (← next)
      return value
    | .number value =>
      lookAhead after
      return value
    | .name t =>
      lookAhead after
      valueOf t
    | .operator "+" =>
      let later ← next
      operand n after later
    | .operator "-" =>
      let later ← next
      return wrap (-(← operand n after later))
    | _ => wrong "expecting primary"
termination_by structural n => n

/-- Joins operands to one by operators that bind more strongly than `limit`, the first of them
being `o`. -/
def binaryFrom : Nat → Nat → Int → Sign → Reckoning Int
  | 0, _, _, _ => wrong "expecting primary"
  | n + 1, limit, a, o => do
    let sign ← next
    let after ← next
    let b ← operand n sign after
    let rank := (rank? o).getD 0
    let later ← ahead
    let b ← match rank? later with
      | some r => if r < rank then binaryFrom n rank b later else pure b
      | none => pure b
    let a ← match o with
      | .operator t => liftM (apply t a b)
      | _ => pure b
    let later ← ahead
    match rank? later with
    | some r => if r < limit then binaryFrom n limit a later else return a
    | none => return a
termination_by structural n => n

/-- A whole expression that starts with a sign. -/
def whole : Nat → Sign → Reckoning Int
  | 0, _ => wrong "expecting primary"
  | n + 1, sign => do
    let after ← next
    match sign, after with
    | .name t, .operator "=" =>
      let start ← next
      assign t (← whole n start)
    | _, _ =>
      let a ← operand n sign after
      let o ← ahead
      if (rank? o).isSome then binaryFrom n 2 a o else return a
termination_by structural n => n

end

end Reckoning

end Arithmetic

open Arithmetic in
/-- **The value of an expression**, and the assignments that it makes, the first one first. -/
def arithmetic (bindings : Variables) (t : Text) : Except Fault (Int × List (Text × Int)) := do
  let reckoning : Reckoning Int := do
    let sign ← Reckoning.next
    let value ← Reckoning.whole (16 * t.length + 32) sign
    if (← Reckoning.ahead) != .ending then Reckoning.wrong "expecting EOF"
    return value
  let (value, s) ← reckoning.run { bindings, left := signs t }
  return (value, s.assigned.reverse)

end TargetPicker.Shell
