import TargetPicker.Shell.Action
import TargetPicker.Shell.Setting

/-!
# Messages and variables

What the shell says when something is wrong, and how variables get their values.  A fault ends the
command that runs, and the script with it unless something takes the fault up; a warning does not.
-/

namespace TargetPicker.Shell.Act

/-! ## Messages -/

/-- Writes a message of the shell, with the name of the script and the line. -/
def warn (t : Text) : Act Unit := do
  let p ← current
  let running := match p.running with
    | some name => name ++ ": ".toList
    | none => []
  complain (p.name ++ ": ".toList ++ Text.decimal p.line ++ ": ".toList ++ running ++ t)

/-- Stops with a message. -/
def fault {α : Type} (t : Text) : Act α := do
  warn t
  setStatus 2
  stop .fault

/-- The number that an argument writes; a fault for other arguments. -/
def numberOf (t : Text) : Act Nat := do
  match number? t with
  | some n => return n
  | none => fault ("Illegal number: ".toList ++ t)

/-! ## Output of the shell itself -/

/-- Passes on what was written. -/
def flush : Act Bool := do
  let t := (← current).buffer
  update fun p => { p with buffer := [] }
  return (← write 1 t).toOption.isSome

/-- How much is held back before it is passed on. -/
def bufferSize : Nat := 8192

/-- Writes to the standard output, at the end of the command at the latest. -/
def print (t : Text) : Act Unit := do
  let p ← current
  if p.buffer.length + t.length ≤ bufferSize then
    update fun p => { p with buffer := p.buffer ++ t }
  else
    let _ ← flush
    if t.length < bufferSize then update fun p => { p with buffer := t }
    else
      let _ ← write 1 t

/-- Writes a line to the standard output. -/
def printLine (t : Text) : Act Unit := print (t ++ ['\n'])

/-! ## Variables -/

/-- Does what follows from the value of a variable: `getopts` goes on where one of them says. -/
def follow (name value : Text) : Act Unit := do
  if name == "OPTIND".toList then
    let n ← numberOf value
    update fun p => { p with optionIndex := max 1 n, optionOffset := none }

/-- Changes a variable, unless it is read-only; `change` is given the one that there is. -/
def changeVariable (name : Text) (change : Option Variable → Option Variable) : Act Unit := do
  let before := (← current).binding? name
  if before.any (·.readOnly) then fault (name ++ ": is read only".toList)
  match change before with
  | none => update fun p => p.dropVariable name
  | some v =>
    follow name (v.value.getD [])
    update fun p => p.putVariable { v with exported := v.exported || p.has "allexport" }

/-- The variable of a name that was found, or a new one. -/
def variableOr (name : Text) (v : Option Variable) : Variable := v.getD { name }

/-- The name at the start of a text, up to an equals sign; a fault if there is none. -/
def nameIn (t : Text) : Act Text := do
  let name := t.takeWhile (· != '=')
  if isName name then return name else fault (name ++ ": bad variable name".toList)

/-- Gives a variable a value. -/
def setVariable (t value : Text) : Act Unit := do
  let name ← nameIn t
  changeVariable name fun v => some { variableOr name v with value := some value }

/-- Gives a variable attributes, and a value if there is one. -/
def declare (t : Text) (value : Option Text) (exported readOnly : Bool) : Act Unit := do
  let name ← nameIn t
  let mark (v : Variable) : Variable :=
    { v with exported := v.exported || exported, readOnly := v.readOnly || readOnly }
  match value, (← current).binding? name with
  | none, some v => update fun p => p.putVariable (mark v)
  | _, _ => changeVariable name fun v => some (mark { variableOr name v with value })

/-- Takes a variable away. -/
def unsetVariable (t : Text) : Act Unit := do
  let name ← nameIn t
  changeVariable name fun _ => none

/-! ## Scopes -/

/-- Opens a scope, which remembers what its variables were. -/
def openScope : Act Unit := update fun p => { p with scopes := [] :: p.scopes }

/-- Remembers in the innermost scope what a variable was. -/
def remember (name : Text) (before : Option Variable) : Act Unit := update fun p =>
  match p.scopes with
  | scope :: scopes => { p with scopes := ((name, before) :: scope) :: scopes }
  | [] => p

/-- Makes a variable one of the innermost scope; it keeps its value until it is given another. -/
def makeLocal (t : Text) (value : Option Text) (exported : Bool) : Act Unit := do
  let name ← nameIn t
  let before := (← current).binding? name
  match value, before with
  | none, some _ => remember name before
  | _, _ =>
    changeVariable name fun v =>
      let v := variableOr name v
      some { v with value, exported := v.exported || exported }
    remember name before

/-- Puts a variable back. -/
def putBack (name : Text) : Option Variable → Act Unit
  | some v => do
    follow name (v.value.getD [])
    update fun p => p.putVariable v
  | none => update fun p => p.dropVariable name

/-- Closes scopes until there are as many as before. -/
def closeScopes (count : Nat) : Act Unit := do
  let scopes := (← current).scopes
  let ended := scopes.take (scopes.length - count)
  update fun p => { p with scopes := scopes.drop (scopes.length - count) }
  ended.flatten.forM fun (name, before) => putBack name before

end TargetPicker.Shell.Act
