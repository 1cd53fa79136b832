import TargetPicker.Shell.Arithmetic
import TargetPicker.Shell.Field
import TargetPicker.Shell.PathPattern
import TargetPicker.Shell.Variables

/-!
# Expansion

What words stand for when they are used.  A word becomes a list of stretches (`expandPieces`), of
which the field rules and the patterns of paths make arguments (`Act.arguments`).

The output of commands is part of words, so all of this is given an action that runs a command and
yields its output.
-/

namespace TargetPicker.Shell

/-- How pieces of a word are expanded. -/
structure Manner where
  /-- Holds if the word becomes fields. -/
  fields : Bool := false
  /-- Holds within quotes. -/
  quoted : Bool := false
  /-- Holds in the word of a parameter, where characters outside quotes separate fields too. -/
  isInner : Bool := false
  deriving Repr, Inhabited

/-- An action that runs a command and yields what it writes. -/
abbrev OutputOf := Command → Act Text

namespace Manner

/-- How an expansion in a word is cut into fields; `bordered` tells that it consists of the
arguments of the script. -/
def cut (m : Manner) (quoted bordered : Bool) : Cut :=
  if !quoted then .separators
  else if bordered && m.fields then .borders
  else .never

end Manner

/-- A stretch in front of others; characters that are not cut are joined to those that follow. -/
def Stretch.consItem (item : Item) : List Stretch → List Stretch
  | { items, cut := .never } :: rest => { items := item :: items, cut := .never } :: rest
  | rest => { items := [item] } :: rest

namespace Act

/-! ## Parameters -/

/-- The arguments of the script as one text.  Within quotes that become fields the arguments of `@`
have borders between them; so do all arguments outside quotes, unless there are no separators at
all. -/
def allArguments (m : Manner) (quoted isAt : Bool) : Act Text := do
  let p ← current
  let separators := p.value? "IFS".toList
  let between : Text :=
    if m.fields && (isAt || !quoted) then
      if quoted || separators.isSome then ['\x00'] else [' ']
    else match separators with
      | some t => t.take 1
      | none => [' ']
  return joined between p.arguments

/-- The value of a parameter, if it has one. -/
def parameterValue (m : Manner) (quoted : Bool) (name : Text) : Act (Option Text) := do
  let p ← current
  match name with
  | ['$'] => return some (Text.decimal p.scriptId)
  | ['?'] => return some (Text.decimal p.status)
  | ['#'] => return some (Text.decimal p.arguments.length)
  | ['!'] => return if p.lastBackground == 0 then none else some (Text.decimal p.lastBackground)
  | ['@'] => return some (← allArguments m quoted true)
  | ['*'] => return some (← allArguments m quoted false)
  | _ =>
    if name.head?.any Char.isDigit then
      let n := digitsValue name
      return if n == 0 then some p.name else p.arguments[n - 1]?
    else return p.value? name

/-- Refuses a parameter that is not set, with the message of its word if there is one. -/
def refuseUnset {α : Type} (name : Text) (orEmpty : Bool) (message : Option Text) : Act α :=
  let why := match message with
    | some t => t
    | none => "parameter not set".toList ++ if orEmpty then " or null".toList else []
  fault (name ++ ": ".toList ++ why)

/-! ## Arithmetic -/

/-- The value of an expression, with its effects on variables. -/
def evaluate (t : Text) : Act Int := do
  let p ← current
  let bindings : Arithmetic.Variables :=
    { value := p.value?, isReadOnly := fun name => (p.binding? name).any (·.readOnly) }
  match arithmetic bindings t with
  | .ok (n, assigned) =>
    assigned.forM fun (name, n) => setVariable name (decimal n)
    return n
  | .error (.wrong why) =>
    fault ("arithmetic expression: ".toList ++ why.toList ++ ": \"".toList ++ t ++ ['"'])
  | .error (.notANumber value) => fault ("Illegal number: ".toList ++ value)
  | .error (.readOnly name) => fault (name ++ ": is read only".toList)

/-! ## Pieces -/

/-- Arguments without the shortest end of a pattern that one of them has, the last one of those,
and without all that follows it. -/
def withoutShortestEnd (g : List Glob) : List Text → Option (List Text)
  | [] => none
  | t :: rest => match withoutShortestEnd g rest with
    | some left => some (t :: left)
    | none => (Glob.trim? g false false t).map fun left => [left]

/-- A text without the start or end that a pattern finds.  A pattern does not reach across the
borders of arguments.  A start, and the longest end, are those of the first argument; an end goes
with all that follows it, and so does the longest start if it is the whole argument. -/
def trimmed (use : Use) (g : List Glob) (value : Text) : Text :=
  let first := value.takeWhile (· != '\x00')
  let trimmed? : Option Text := match use with
    | .withoutStart longest => (Glob.trim? g true longest first).map fun left =>
      if longest && left.isEmpty then [] else left ++ value.drop first.length
    | .withoutEnd true => Glob.trim? g false true first
    | .withoutEnd false =>
      (withoutShortestEnd g (value.splitOn '\x00')).map (joined ['\x00'])
    | _ => none
  trimmed?.getD value

mutual

/-- What a word stands for, from some piece on; `inQuotes` holds after a quote that opens.
`n` bounds the pieces of the word and of the words in it. -/
def expandPieces (run : OutputOf) : Nat → Manner → Bool → Word → Act (List Stretch)
  | 0, _, _, _ => return []
  | _ + 1, _, _, [] => return []
  | n + 1, m, inQuotes, piece :: rest => do
    let quoted := m.quoted || inQuotes
    match piece with
    | .quote =>
      match inQuotes, rest with
      | false, .parameter ['@'] .value false [] :: .quote :: rest =>
        let value ← expandParameter run n m true ['@'] .value false []
        return value ++ (← expandPieces run n m false rest)
      | _, _ =>
        return Stretch.consItem .quote (← expandPieces run n m (!inQuotes) rest)
    | .exact c =>
      return Stretch.consItem (.char c true) (← expandPieces run n m inQuotes rest)
    | .plain c =>
      let after ← expandPieces run n m inQuotes rest
      let item : Item := .char c false
      if m.isInner && !quoted then
        return match after, rest with
          | { items, cut := .separators } :: others, .plain _ :: _ =>
            { items := item :: items, cut := .separators } :: others
          | after, _ => { items := [item], cut := .separators } :: after
      else return Stretch.consItem item after
    | .parameter name use orEmpty word =>
      let value ← expandParameter run n m quoted name use orEmpty word
      return value ++ (← expandPieces run n m inQuotes rest)
    | .output command =>
      let t ← run command
      let value : Stretch := { items := itemsOf quoted t, cut := m.cut quoted false }
      return value :: (← expandPieces run n m inQuotes rest)
    | .arithmetic expression =>
      let inner ← expandPieces run n {} false expression
      let t := decimal (← evaluate (Stretch.text inner))
      let value : Stretch := { items := itemsOf quoted t, cut := m.cut quoted false }
      return value :: (← expandPieces run n m inQuotes rest)
termination_by structural n => n

/-- What a parameter stands for. -/
def expandParameter (run : OutputOf) :
    Nat → Manner → Bool → Text → Use → Bool → Word → Act (List Stretch)
  | 0, _, _, _, _, _, _ => return []
  | n + 1, m, quoted, name, use, orEmpty, word => do
    if use == .unknown then fault "Bad substitution".toList
    let isUsed := use != .instead && use != .size
    let value ← parameterValue { m with fields := m.fields && isUsed } quoted name
    let isSet := value.any fun t => !orEmpty || Text.nonempty t
    let t := value.getD []
    let cut := m.cut quoted (name == ['@'] && !(← current).arguments.isEmpty)
    let stretch (t : Text) : List Stretch := [{ items := itemsOf quoted t, cut }]
    let wordIn (m : Manner) : Act (List Stretch) := expandPieces run n m false word
    let check : Act Unit := do
      if !isSet && (← current).has "nounset" then refuseUnset name false none
    match use with
    | .instead =>
      if isSet then wordIn { m with quoted, isInner := true } else return stretch []
    | .otherwise =>
      if isSet then return stretch t else wordIn { m with quoted, isInner := true }
    | .assign =>
      if isSet then return stretch t
      else
        let t := Stretch.text (← wordIn {})
        setVariable name t
        return stretch (((← parameterValue m quoted name)).getD [])
    | .demand =>
      if isSet then return stretch t
      else
        let message := Stretch.text (← wordIn {})
        refuseUnset name orEmpty (if word.isEmpty then none else some message)
    | .value =>
      check
      return stretch t
    | .size =>
      check
      return stretch (Text.decimal t.length)
    | .withoutStart _ | .withoutEnd _ =>
      check
      if isSet then
        let pattern := Stretch.pattern (← wordIn {})
        return stretch (trimmed use (Glob.ofText pattern) t)
      else return []
    | .unknown => return []
termination_by structural n => n

end

/-! ## Words -/

/-- A bound on the pieces of words. -/
def manyPieces : Nat := 1000000

/-- What a word stands for. -/
def expand (run : OutputOf) (m : Manner) (w : Word) : Act (List Stretch) :=
  expandPieces run manyPieces m false w

/-- The text that a word stands for, as one. -/
def expandText (run : OutputOf) (w : Word) : Act Text := do
  return Stretch.text (← expand run {} w)

/-- The text that the lines of a here-document stand for. -/
def expandHere (run : OutputOf) (w : Word) : Act Text := do
  return Stretch.text (← expandPieces run manyPieces { quoted := true } false w)

/-- The pattern that a word stands for. -/
def expandPattern (run : OutputOf) (w : Word) : Act (List Glob) := do
  return Glob.ofText (Stretch.pattern (← expand run {} w))

/-- The paths that a field stands for, or the field itself. -/
def pathsOrItself (field : List Item) : Act (List Text) := do
  if (← current).has "noglob" then return [Item.text field]
  else match pathsOf (← view) (Item.pattern false field) with
    | [] => return [Item.text field]
    | paths => return paths

/-- **The arguments that a word stands for.** -/
def arguments (run : OutputOf) (w : Word) : Act (List Text) := do
  let stretches ← expand run { fields := true } w
  let fields := Stretch.fields (← current).separators none stretches
  return (← fields.mapM pathsOrItself).flatten

end Act

end TargetPicker.Shell
