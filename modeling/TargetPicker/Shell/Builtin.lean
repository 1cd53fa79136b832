import TargetPicker.Shell.Condition
import TargetPicker.Shell.Field
import TargetPicker.Shell.Format
import TargetPicker.Shell.Grammar
import TargetPicker.Shell.Jobs

/-!
# The commands of the shell itself

Each command is a function from its arguments to an action that gives its status
(`Builtin.plain?`).  They write through the buffer of the shell, so that messages come before what
they print.  The commands that run other commands are part of the evaluation of scripts.
-/

namespace TargetPicker.Shell

/-- The commands of the shell that are no special ones and that are taken before any other of their
name is looked for. -/
def regularNames : List String :=
  ["alias", "cd", "false", "getopts", "kill", "read", "true", "unalias", "wait"]

/-- The other commands of the shell that are no special ones. -/
def otherNames : List String := ["[", "echo", "printf", "pwd", "test", "type"]

/-- Holds of the names of commands of the shell. -/
def isBuiltin (name : Text) : Bool :=
  let name := String.ofList name
  specialNames.contains name || regularNames.contains name || otherNames.contains name

/-- Holds of the commands of which arguments that look like assignments are expanded as such. -/
def takesAssignments (name : Text) : Bool :=
  ["alias", "export", "local", "readonly"].contains (String.ofList name)

namespace Builtin

open Act

/-! ## Arguments -/

/-- The options of a text after its hyphen: each letter, with its value if it takes one; `allowed`
are the letters, those that take a value with `true`. -/
def lettersOf (allowed : List (Char × Bool)) (rest : List Text) :
    Text → Act (List (Char × Text) × List Text)
  | [] => return ([], rest)
  | c :: t => do
    match allowed.find? fun o => o.1 == c with
    | none => fault ("Illegal option -".toList ++ [c])
    | some (_, false) =>
      let (others, rest) ← lettersOf allowed rest t
      return ((c, []) :: others, rest)
    | some (_, true) =>
      if Text.nonempty t then return ([(c, t)], rest)
      else match rest with
        | value :: rest => return ([(c, value)], rest)
        | [] => fault ("No arg for -".toList ++ [c] ++ " option".toList)

/-- The options of a command and its other arguments; `n` bounds the arguments. -/
def optionsBy (allowed : List (Char × Bool)) : Nat → List Text →
    Act (List (Char × Text) × List Text)
  | n + 1, ('-' :: c :: t) :: rest => do
    if c == '-' && t.isEmpty then return ([], rest)
    else
      let (found, rest) ← lettersOf allowed rest (c :: t)
      let (others, rest) ← optionsBy allowed n rest
      return (found ++ others, rest)
  | _, arguments => return ([], arguments)

/-- The options of a command and its other arguments. -/
def options (allowed : List (Char × Bool)) (arguments : List Text) :
    Act (List (Char × Text) × List Text) := optionsBy allowed arguments.length arguments

/-- The arguments of a command that has no options. -/
def operands (arguments : List Text) : Act (List Text) := do return (← options [] arguments).2

/-- Holds if a letter is among options. -/
def has (found : List (Char × Text)) (c : Char) : Bool := found.any fun o => o.1 == c

/-- Puts something under a name, in place of what is there or at the end. -/
def putNamed {α : Type} (name : Text) (value : α) : List (Text × α) → List (Text × α)
  | [] => [(name, value)]
  | x :: xs => if x.1 == name then (name, value) :: xs else x :: putNamed name value xs

/-! ## Aliases -/

/-- Writes an alias. -/
def showAlias (a : Text × Text) : Act Unit := printLine (a.1 ++ ['='] ++ singleQuoted a.2)

/-- Does something with the alias of a name, if there is one; otherwise says so. -/
def withAlias (command : String) (name : Text) (f : Text × Text → Act Unit) : Act Nat := do
  match (← current).aliases.find? fun a => a.1 == name with
  | some found =>
    f found
    return 0
  | none =>
    complain (command.toList ++ ": ".toList ++ name ++ " not found".toList)
    return 1

/-- Sets aliases, or shows them. -/
def aliasCommand (arguments : List Text) : Act Nat := do
  let statuses ← arguments.mapM fun a => do
    match assignment? (a.drop 1) with
    | some (rest, value) =>
      update fun p => { p with aliases := putNamed (a.take 1 ++ rest) value p.aliases }
      return 0
    | none => withAlias "alias" a showAlias
  return statuses.foldl max 0

/-- Takes aliases away. -/
def unalias (arguments : List Text) : Act Nat := do
  let statuses ← arguments.mapM fun name => withAlias "unalias" name fun _ =>
    update fun p => { p with aliases := p.aliases.filter fun a => a.1 != name }
  return statuses.foldl max 0

/-! ## Directories -/

/-- Goes through the names of a path from a directory on; the names are in reverse order. -/
def through (back : List Text) : List Text → List Text
  | [] => back
  | name :: names =>
    if name.isEmpty || name == ['.'] then through back names
    else if name == ['.', '.'] then through back.tail names
    else through (name :: back) names

/-- The directory that a path names from another one, without following links. -/
def logicalPath (here path : Text) : Text :=
  let isAbsolute := path.head? == some '/'
  let root : Text :=
    let t := if isAbsolute then path else here
    if t.take 2 == ['/', '/'] && t[2]? != some '/' then ['/', '/'] else ['/']
  let before := if isAbsolute then [] else through [] (here.splitOn '/')
  root ++ joined ['/'] (through before (path.splitOn '/')).reverse

/-- A directory of the file tree as a text. -/
def physicalPath (directory : Path) : Text := ['/'] ++ joined ['/'] (directory.map ofUnicode)

/-- Changes the present directory. -/
def cd (arguments : List Text) : Act Nat := do
  let path := arguments.headD ((← current).valueOr "HOME" ['.'])
  let target := logicalPath (← current).logical path
  match (← view).lookup (toUnicode target) with
  | .ok (directory, .directory) =>
    update fun p => { p with directory, logical := target }
    declare "PWD".toList (some target) true false
    return 0
  | _ => fault ("can't cd to ".toList ++ path)

/-- Writes the present directory. -/
def pwd (arguments : List Text) : Act Nat := do
  let (found, _) ← options [('L', false), ('P', false)] arguments
  let p ← current
  printLine (if has found 'P' then physicalPath p.directory else p.logical)
  return 0

/-! ## Output -/

/-- Writes texts with escapes resolved, blanks between them and, if `ends`, a line end after
them. -/
def writeWords (ends : Bool) : List Text → Act Unit
  | [] => if ends then print ['\n'] else return ()
  | word :: rest => do
    let f := Format.escaped word
    print f.text
    if f.goesOn then
      if !rest.isEmpty then print [' ']
      writeWords ends rest

/-- Writes its arguments. -/
def echo (arguments : List Text) : Act Nat := do
  match arguments with
  | ['-', 'n'] :: rest => writeWords false rest
  | arguments => writeWords true arguments
  return 0

/-- Writes its arguments as a format says. -/
def printf (arguments : List Text) : Act Nat := do
  match ← operands arguments with
  | [] => fault "usage: printf format [arg ...]".toList
  | t :: arguments =>
    let f := format t arguments
    f.faults.forM warn
    print f.text
    match f.failure with
    | some why => fault why
    | none => return if f.faults.isEmpty then 0 else 1

/-! ## Control -/

/-- Leaves loops. -/
def leaveLoops (goesOn : Bool) (arguments : List Text) : Act Nat := do
  let n ← match arguments with
    | a :: _ => do
      let n ← numberOf a
      if n == 0 then fault ("Illegal number: ".toList ++ a)
      pure n
    | [] => pure 1
  let n := min n (← current).loops
  if 0 < n then update fun p => { p with skip := .loops n goesOn }
  return 0

/-- Leaves a function or a file. -/
def leaveFunction (arguments : List Text) : Act Nat := do
  match arguments with
  | a :: _ =>
    let n ← numberOf a
    update fun p => { p with skip := .function false }
    return n
  | [] =>
    update fun p => { p with skip := .function true }
    return (← current).status

/-- Ends the shell. -/
def exit (arguments : List Text) : Act Nat := do
  match arguments with
  | a :: _ =>
    let n ← numberOf a
    update fun p => { p with kept := some n }
  | [] => pure ()
  stop .exit

/-! ## Variables -/

/-- Gives variables an attribute. -/
def giveAttribute (exported readOnly : Bool) (arguments : List Text) : Act Nat := do
  (← operands arguments).forM fun a => match assignment? a with
    | some (name, value) => declare name (some value) exported readOnly
    | none => declare a none exported readOnly
  return 0

/-- Makes variables those of the running function. -/
def makeOwn (arguments : List Text) : Act Nat := do
  if (← current).scopes.isEmpty then fault "not in a function".toList
  arguments.forM fun a => do
    match assignment? a with
    | some (name, value) => makeLocal name (some value) false
    | none => makeLocal a none false
  return 0

/-- Takes variables or functions away. -/
def unset (arguments : List Text) : Act Nat := do
  let (found, names) ← options [('v', false), ('f', false)] arguments
  names.forM fun name => do
    if (found.getLast?.map (·.1)) == some 'f' then
      update fun p => { p with functions := p.functions.filter fun f => f.1 != name }
    else unsetVariable name
  return 0

/-- Replaces the arguments of the script. -/
def setArguments (arguments : List Text) : Act Unit :=
  update fun p => { p with arguments, optionIndex := 1, optionOffset := none }

/-- Takes arguments of the script away from the front. -/
def shift (arguments : List Text) : Act Nat := do
  let n ← match arguments with
    | a :: _ => numberOf a
    | [] => pure 1
  let p ← current
  if p.arguments.length < n then fault "can't shift that many".toList
  setArguments (p.arguments.drop n)
  return 0

/-! ## Settings -/

/-- Turns a setting on or off, if it is known. -/
def turn (isOn : Bool) (setting : Option String) (wrong : Text) : Act Unit :=
  match setting with
  | some name => update fun p => { p with settings := Setting.turn name isOn p.settings }
  | none => fault ("Illegal option -".toList ++ wrong)

/-- Turns the settings of letters on or off, where `o` takes the name of a setting from the
arguments; gives the arguments that are left. -/
def turnLetters (isOn : Bool) : Text → List Text → Act (List Text)
  | [], rest => return rest
  | 'o' :: t, rest => do
    let name := rest.headD []
    turn isOn (Setting.ofName? name) ("o ".toList ++ name)
    turnLetters isOn t rest.tail
  | c :: t, rest => do
    turn isOn (Setting.ofLetter? c) [c]
    turnLetters isOn t rest

/-- Takes settings off the front of arguments; gives those that are left, and whether they replace
the arguments of the script even if there are none.  `n` bounds the arguments. -/
def turnFrom : Nat → List Text → Act (List Text × Bool)
  | n + 1, ('-' :: t) :: rest => do
    if t == ['-'] then return (rest, true)
    else turnFrom n (← turnLetters true t rest)
  | n + 1, ('+' :: t) :: rest => do turnFrom n (← turnLetters false t rest)
  | _, rest => return (rest, false)

/-- Changes settings and the arguments of the script. -/
def setSettings (arguments : List Text) : Act Nat := do
  let (rest, replaces) ← turnFrom arguments.length arguments
  if replaces || !rest.isEmpty then setArguments rest
  return 0

/-! ## Options of scripts -/

/-- Sets a variable that tells of an option. -/
def tell (name : String) (value : Option Text) : Act Unit :=
  match value with
  | some t => setVariable name.toList t
  | none => unsetVariable name.toList

/-- Whether a letter takes a value, if it is among the letters that are known; a colon after one of
them says so. -/
def takesValue? (letter : Char) : Text → Option Bool
  | [] => none
  | c :: ':' :: rest => if c == letter then some true else takesValue? letter rest
  | c :: rest => if c == letter then some false else takesValue? letter rest

/-- Reads the next option of some words.  The word before the place where it goes on may be in the
middle of its letters. -/
def getopts (arguments : List Text) : Act Nat := do
  match arguments with
  | known :: target :: given =>
    let p ← current
    let words := if given.isEmpty then p.arguments else given
    let atStart := words.length + 1 < p.optionIndex
    let index := if atStart then 1 else p.optionIndex
    let offset := if atStart then none else p.optionOffset
    let before := (words[index - 2]?).getD []
    let open_ : Text := match offset with
      | some n => if index ≤ 1 || before.length < n then [] else before.drop n
      | none => []
    let conclude (letter : Char) (index : Nat) (left : Option Text) (status : Nat) : Act Nat := do
      setVariable "OPTIND".toList (Text.decimal index)
      update fun q => { q with optionIndex := p.optionIndex, optionOffset := p.optionOffset }
      setVariable target [letter]
      let word := (words[index - 2]?).getD []
      update fun p => { p with
        optionIndex := index, optionOffset := left.map fun t => word.length - t.length }
      return status
    let (letters, index, isOver) : Text × Nat × Bool :=
      if Text.nonempty open_ then (open_, index, false)
      else match words[index - 1]? with
        | some ('-' :: c :: t) =>
          if c == '-' && t.isEmpty then ([], index + 1, true) else (c :: t, index + 1, false)
        | _ => ([], index, true)
    match isOver, letters with
    | false, c :: left =>
      let isQuiet := known.head? == some ':'
      match takesValue? c known with
      | none =>
        if isQuiet then tell "OPTARG" (some [c])
        else
          complain ("Illegal option -".toList ++ [c])
          tell "OPTARG" none
        conclude '?' index (some left) 0
      | some false =>
        tell "OPTARG" (some [])
        conclude c index (some left) 0
      | some true =>
        if Text.nonempty left then
          tell "OPTARG" (some left)
          conclude c index none 0
        else match words[index - 1]? with
          | some value =>
            tell "OPTARG" (some value)
            conclude c (index + 1) none 0
          | none =>
            if isQuiet then
              tell "OPTARG" (some [c])
              conclude ':' index none 0
            else
              complain ("No arg for -".toList ++ [c] ++ " option".toList)
              tell "OPTARG" none
              conclude '?' index none 0
    | _, _ => conclude '?' index none 1
  | _ => fault "Usage: getopts optstring var [arg...]".toList

/-! ## Input -/

/-- What a line holds where a backslash lets the next character stand for itself: stretches, and
whether the line goes on in the next one. -/
def stretchesOf (back : List Item) : Text → List Stretch × Bool
  | [] => ([{ items := back.reverse, cut := .separators }], false)
  | ['\\', '\n'] => ([{ items := back.reverse, cut := .separators }], true)
  | ['\\'] => ([{ items := back.reverse, cut := .separators }], true)
  | '\\' :: c :: t =>
    let (rest, goesOn) := stretchesOf [] t
    ({ items := back.reverse, cut := .separators } :: { items := [.char c true] } :: rest, goesOn)
  | '\n' :: _ => ([{ items := back.reverse, cut := .separators }], false)
  | c :: t => stretchesOf (.char c false :: back) t

/-- Reads a line and those that belong to it: its stretches, and whether its end was there; `n`
bounds the number of lines. -/
def readStretches (raw : Bool) : Nat → Act (List Stretch × Bool)
  | 0 => return ([], false)
  | n + 1 => do
    match ← readLine 0 manyTimes [] with
    | .error _ => return ([], false)
    | .ok line =>
      let ended := line.getLast? == some '\n'
      let t := line.filter (· != '\x00')
      let (stretches, goesOn) :=
        if raw then ([{ items := itemsOf false (t.filter (· != '\n')), cut := .separators }], false)
        else stretchesOf [] t
      if ended && goesOn then
        let (rest, ended) ← readStretches raw n
        return (stretches ++ rest, ended)
      else return (stretches, ended)

/-- Gives variables their values in order; those without one become empty. -/
def setAll : List Text → List Text → Act Unit
  | [], _ => return ()
  | name :: names, values => do
    setVariable name (values.headD [])
    setAll names values.tail

/-- Reads a line into variables. -/
def read (arguments : List Text) : Act Nat := do
  let (found, names) ← options [('p', true), ('r', false)] arguments
  if names.isEmpty then fault "arg count".toList
  let (stretches, ended) ← readStretches (has found 'r') manyTimes
  let fields := Stretch.fields (← current).separators (some names.length) stretches
  setAll names (fields.map Item.text)
  return if ended then 0 else 1

/-- Answers a condition. -/
def test (arguments : List Text) : Act Nat := do
  match Condition.holds (← view) arguments with
  | .ok answer => return if answer then 0 else 1
  | .error why => fault why

/-- Answers a condition up to a closing bracket. -/
def bracket (arguments : List Text) : Act Nat := do
  if arguments.getLast?.any fun a => a.head? == some ']' then test arguments.dropLast
  else fault "missing ]".toList

/-! ## Signals and jobs -/

/-- Sets what is done when signals come. -/
def trap (arguments : List Text) : Act Nat := do
  match ← operands arguments with
  | [] => return 0
  | action :: names =>
    let statuses ← names.mapM fun t => do
      match Signal.ofText? 0 t with
      | none =>
        complain ("trap: ".toList ++ t ++ ": bad trap".toList)
        return 1
      | some n =>
        let set := if action == ['-'] then [] else [(n, action)]
        update fun p => { p with traps := set ++ p.traps.filter fun trap => trap.1 != n }
        return 0
    return statuses.foldl max 0

/-- Writes the name of a signal, which is given by its number or by the status of a process that it
has ended. -/
def nameSignal (t : Text) : Act Nat := do
  let n ← numberOf t
  let n := if 128 < n then n - 128 else n
  if 0 < n && n < Signal.count then printLine (Signal.name n)
  else fault ("invalid signal number or exit status: ".toList ++ t)
  return 0

/-- Sends a signal to what an argument names, unless there is no such process. -/
def sendTo (signal : Nat) (t : Text) : Act Nat := do
  if ← send signal (← numberOf t) then return 0
  else
    warn "No such process\n".toList
    return 1

/-- Sends signals. -/
def kill (arguments : List Text) : Act Nat := do
  let first := arguments.headD []
  let named := if first.head? == some '-' then Signal.ofText? 1 (first.drop 1) else none
  match first == "-l".toList, if named.isSome then arguments.tail else arguments with
  | true, _ :: t :: _ => nameSignal t
  | _, [] => fault "Usage: kill [-signal] pid...".toList
  | _, rest =>
    let statuses ← rest.mapM (sendTo (named.getD Signal.terminate))
    return statuses.foldl max 0

/-- Waits until no job is running. -/
def waitAll : Nat → Act Unit
  | 0 => return ()
  | n + 1 => do
    noteEnds none manyEnds
    if (← current).jobs.any (·.isRunning) then
      awaitChild
      waitAll n

/-- Waits for the end of the job of which a process is the last one; gives its status. -/
def waitFor (t : Text) : Act Nat := do
  let id ← numberOf t
  match (← current).jobs.find? fun j => (j.members.getLast?.map (·.1)) == some id with
  | none => return 127
  | some j =>
    awaitJob j.number manyEnds
    return ((← job? j.number).map fun j => endNumber j.ending).getD 127

/-- Waits for the ends of processes. -/
def wait (arguments : List Text) : Act Nat := do
  match ← operands arguments with
  | [] =>
    waitAll manyEnds
    return 0
  | rest => rest.foldlM (fun _ t => waitFor t) 127

end Builtin

end TargetPicker.Shell
