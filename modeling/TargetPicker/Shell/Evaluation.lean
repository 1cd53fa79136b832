import TargetPicker.Shell.Program.All
import TargetPicker.Shell.Redirection
import TargetPicker.Shell.Search
import TargetPicker.Shell.Start

/-!
# Evaluation

What commands do, one kind after the other (`evaluate`), and what it takes to run a script: reading
it command by command (`runReader`), starting programs (`runFile`), and ending (`endShell`).

All of this is one recursion, on a number that bounds the steps.

A command is evaluated *as tested* where somebody looks at its status, so that a failure is no
reason to stop.  It is evaluated *as the last one* where nothing follows in its process, which then
ends with it.
-/

namespace TargetPicker.Shell

open Act

/-- How a command is evaluated. -/
structure Standing where
  tested : Bool := false
  last : Bool := false
  deriving Repr, Inhabited

/-! ## Processes -/

/-- A process that is split off from a script.  Traps stay with the script, apart from those that
only ignore a signal. -/
def subshell (p : Process) : Process :=
  { p with
    traps := p.traps.filter fun t => t.2.isEmpty
    pending := []
    jobs := []
    setAside := [] }

/-- A process that is put in the background.  It does not heed the keyboard; the first of its job
has nothing to read. -/
def inBackground (isFirst : Bool) (empty : Nat) (p : Process) : Process :=
  let p := { p with
    unheeded := Signal.keyboard ++ p.unheeded
    time := p.time + backgroundDelay }
  if isFirst then p.bind 0 empty else p

/-- A process that starts a program.  It keeps what programs are given. -/
def newProgram (p : Process) : Process :=
  { id := p.id
    parent := p.parent
    directory := p.directory
    time := p.time
    descriptors := p.descriptors.filter fun d => d.1 < Process.scriptDescriptors
    unheeded := p.unheeded ++ (p.traps.filter fun t => t.2.isEmpty).map (·.1)
    bindings := p.bindings.filter fun v => v.exported && v.value.isSome }

/-- Makes a process that starts a program one that runs a script. -/
def beginScript (name : Text) : Act Unit := do
  let p ← current
  let known (n : String) : Bool := (p.value? n.toList).isSome
  let put (p : Process) (n : String) (t : Text) : Process :=
    let v := (p.binding? n.toList).getD { name := n.toList }
    p.putVariable { v with value := some t }
  let putNew (p : Process) (n : String) (t : Text) : Process := if known n then p else put p n t
  let p := { p with name, bindings := p.bindings.filter fun v => isName v.name }
  let p := putNew p "PATH" standardPath
  let p := putNew p "PS1" "# ".toList
  let p := putNew p "PS2" "> ".toList
  let p := putNew p "PS4" "+ ".toList
  let p := put p "IFS" " \t\n".toList
  let p := put p "OPTIND" ['1']
  let p := put p "PPID" (Text.decimal p.parent)
  let given := p.valueOr "PWD" []
  let isHere := given.head? == some '/' && match (← view).lookup (toUnicode given) with
    | .ok (place, .directory) => place == p.directory
    | _ => false
  let logical := if isHere then given else Builtin.physicalPath p.directory
  let v : Variable := { name := "PWD".toList, value := some logical, exported := true }
  update fun _ => { p.putVariable v with logical }

/-- The text in front of traces. -/
def traceStart (run : OutputOf) : Act Text := do
  let p ← current
  update fun p => { p with tracing := true }
  let t ← expandHere run (Word.ofPrompt (p.valueOr "PS4" []))
  update fun p => { p with tracing := false }
  return t

/-- Shows a command that is about to run, where errors went before its redirections. -/
def trace (run : OutputOf) (redirected : Bool) (words : List Text) : Act Unit := do
  let p ← current
  if p.has "xtrace" && !p.tracing then
    let aside := if redirected then (p.setAside.headD []).find? fun s => s.1 == 2 else none
    let n := (aside.bind (·.2)).getD 2
    let start ← traceStart run
    let _ ← write n (start ++ joined [' '] words ++ ['\n'])

/-! ## Arguments of commands -/

/-- The arguments of the first word that has any, and the words after it. -/
def firstArguments (run : OutputOf) : List Word → Act (List Text × List Word)
  | [] => return ([], [])
  | w :: rest => do
    match ← arguments run w with
    | [] => firstArguments run rest
    | found => return (found, rest)

/-- The arguments of the words of a command after the first. -/
def remainingArguments (run : OutputOf) (assigning : Bool) (words : List Word) :
    Act (List Text) := do
  let parts ← words.mapM fun w => do
    if assigning && Word.isAssignment w then return [← expandText run w]
    else arguments run w
  return parts.flatten

/-! ## Starting programs -/

/-- Refuses to start a program; the shell ends. -/
def refuseStart (name : Text) (cause : Failure) : Act Unit := do
  let isAbsent := [.notFound, .notADirectory].contains cause.kind
  warn (name ++ ": ".toList ++ if isAbsent then notFound else reason cause)
  let isLost := isAbsent || [.filesystemLoop, .invalidFilename].contains cause.kind
  setStatus (if isLost then 127 else 126)
  stop .ending

/-- The time that a program takes to start. -/
def startCost : Nat := 1000

/-- Options at the start of the arguments of the shell: the settings, and whether a script follows
as an argument.  `n` bounds the arguments. -/
def shellOptions : Nat → Bool → List Text → Act (Bool × List Text)
  | n + 1, isGiven, (sign :: c :: t) :: rest => do
    if sign == '-' && c == '-' && t.isEmpty then return (isGiven, rest)
    else if sign == '-' || sign == '+' then
      let letters := (c :: t).filter fun d => d != 'c' && d != 'l'
      let rest ← Builtin.turnLetters (sign == '-') letters rest
      shellOptions n (isGiven || (c :: t).contains 'c') rest
    else return (isGiven, (sign :: c :: t) :: rest)
  | _, isGiven, ['-'] :: rest => return (isGiven, rest)
  | _, isGiven, rest => return (isGiven, rest)

/-- The text of the script at a path, where nothing is left of a directory. -/
def scriptText (path : Text) : Act (Except Failure Text) := do
  match ← openPath path .read false with
  | .error cause => return .error cause
  | .ok index =>
    let n := (← current).freeDescriptor
    update fun p => p.bind n index
    let t ← readAll n
    update fun p => p.close n
    return .ok (t.toOption.getD [])

/-- Refuses a script that cannot be opened. -/
def refuseScript {α : Type} (path : Text) (cause : Failure) : Act α := refuseFile .read path cause

/-- Echoes the lines of a script that were read, where that is set. -/
def echoLines (p : Process) (before after : Text) : Act Unit := do
  if p.has "verbose" then
    let _ ← write 2 (before.take (before.length - after.length))

/-- The first lines of a text, as many as a number says. -/
def firstLines : Nat → Text → Text
  | 0, _ => []
  | n + 1, t =>
    let line := firstLine t
    line ++ firstLines n (t.drop line.length)

/-- Takes up a skip at the end of the round of a loop: nothing if the loop goes on as usual, or
whether there is another round. -/
def takeSkip : Act (Option Bool) := do
  match (← current).skip with
  | .none => return none
  | .function _ => return some false
  | .loops count goesOn =>
    if count ≤ 1 then
      update fun p => { p with skip := .none }
      return some goesOn
    else
      update fun p => { p with skip := .loops (count - 1) goesOn }
      return some false

/-! ## Commands -/

mutual

/-- **Evaluates a command**; gives its status. -/
def evaluate : Nat → Standing → Command → Act Nat
  | 0, _, _ => finish (.code 2)
  | n + 1, st, c => do
    let run : OutputOf := output n
    takeSignals n
    let (status, checks) ← do
      match c with
      | .nothing => pure (none, false)
      | .plain line assignments words redirects =>
        let status ← runPlain n st line assignments words redirects
        pure (some status, !st.tested)
      | .sequence a b =>
        let _ ← evaluate n { tested := st.tested } a
        if (← current).skip != .none then pure (none, false)
        else
          let status ← evaluate n st b
          pure (some status, false)
      | .both a b =>
        let status ← evaluate n { tested := true } a
        if status != 0 || (← current).skip != .none then pure (none, false)
        else
          let status ← evaluate n st b
          pure (some status, false)
      | .either a b =>
        let status ← evaluate n { tested := true } a
        if status == 0 || (← current).skip != .none then pure (none, false)
        else
          let status ← evaluate n st b
          pure (some status, false)
      | .negated c =>
        let status ← evaluate n { tested := true } c
        pure (some (if status == 0 then 1 else 0), false)
      | .pipeline isBackground stages =>
        let status ← runPipeline n st isBackground stages
        pure (some status, !st.tested)
      | .background line c redirects =>
        let status ← runSubshell n st true line c redirects
        pure (some status, !st.tested)
      | .subshell line c redirects =>
        let status ← runSubshell n st false (some line) c redirects
        pure (some status, !st.tested)
      | .redirected line c redirects =>
        update fun p => { p with line }
        let prepared ← redirects.mapM (prepare run)
        openSetAside
        let status ← match ← attempt (prepared.forM (redirect run true)) with
          | .ok _ => evaluate n { tested := st.tested } c
          | .error .fault => pure 2
          | .error why => stop why
        closeSetAside false
        pure (some status, false)
      | .conditional test yes no =>
        let status ← evaluate n { tested := true } test
        if (← current).skip != .none then pure (none, false)
        else if status == 0 then
          let status ← evaluate n st yes
          pure (some status, false)
        else match no with
          | some no =>
            let status ← evaluate n st no
            pure (some status, false)
          | none => pure (some 0, false)
      | .loop wanted test body =>
        update fun p => { p with loops := p.loops + 1 }
        let status ← repeatLoop n st.tested wanted test body 0
        update fun p => { p with loops := p.loops - 1 }
        pure (some status, false)
      | .each line name words body =>
        update fun p => { p with line }
        let values ← remainingArguments run false words
        update fun p => { p with loops := p.loops + 1 }
        let status ← forValues n st.tested name body 0 values
        update fun p => { p with loops := p.loops - 1 }
        pure (some status, false)
      | .choice line word arms =>
        update fun p => { p with line }
        let t ← expandText run word
        let status ← chooseArm n st t arms
        pure (some status, false)
      | .function name body =>
        update fun p => { p with functions := Builtin.putNamed name body p.functions }
        pure (some 0, false)
    match status with
    | some status => setStatus status
    | none => pure ()
    takeSignals n
    let failed := checks && (status.getD 0) != 0 && (← current).has "errexit"
    if failed || st.last then stop .ending
    return (← current).status
termination_by structural n => n

/-- Repeats a body as long as a test gives what is wanted. -/
def repeatLoop : Nat → Bool → Bool → Command → Command → Nat → Act Nat
  | 0, _, _, _, _, status => return status
  | n + 1, tested, wanted, test, body, status => do
    let answer ← evaluate n { tested := true } test
    let given := match (← current).skip with
      | .function false => answer
      | _ => status
    match ← takeSkip with
    | some true => repeatLoop n tested wanted test body given
    | some false => return given
    | none =>
      if (answer == 0) != wanted then return given
      else
        let status ← evaluate n { tested } body
        match ← takeSkip with
        | some false => return status
        | _ => repeatLoop n tested wanted test body status
termination_by structural n => n

/-- Runs a body for each of some values. -/
def forValues : Nat → Bool → Text → Command → Nat → List Text → Act Nat
  | 0, _, _, _, status, _ => return status
  | _ + 1, _, _, _, status, [] => return status
  | n + 1, tested, name, body, _, value :: values => do
    setVariable name value
    let status ← evaluate n { tested } body
    match ← takeSkip with
    | some false => return status
    | _ => forValues n tested name body status values
termination_by structural n => n

/-- Runs the first arm of a choice with a pattern that a text is of. -/
def chooseArm : Nat → Standing → Text → List (List Word × Command) → Act Nat
  | 0, _, _, _ => return 0
  | _ + 1, _, _, [] => return 0
  | n + 1, st, t, (patterns, body) :: arms => do
    let isMatch ← matchesAny n t patterns
    if isMatch then
      match body with
      | .nothing => return 0
      | body => evaluate n st body
    else chooseArm n st t arms
termination_by structural n => n

/-- Holds if a text is of one of some patterns. -/
def matchesAny : Nat → Text → List Word → Act Bool
  | 0, _, _ => return false
  | _ + 1, _, [] => return false
  | n + 1, t, w :: rest => do
    let g ← expandPattern (output n) w
    if Glob.accepts g t then return true else matchesAny n t rest
termination_by structural n => n

/-- What a process does that was split off: an action, and then its end. -/
def childOf : Nat → Act Unit → Act Unit
  | 0, _ => finish (.code 2)
  | n + 1, body => do
    match ← attempt body with
    | .ok _ => endShell n none
    | .error why => endShell n (some why)
termination_by structural n => n

/-- Runs a command in a process of its own. -/
def runSubshell : Nat → Standing → Bool → Option Nat → Command → List Redirect → Act Nat
  | 0, _, _, _, _, _ => finish (.code 2)
  | n + 1, st, isBackground, line, c, redirects => do
    let run : OutputOf := output n
    match line with
    | some line => update fun p => { p with line }
    | none => pure ()
    let prepared ← redirects.mapM (prepare run)
    let body (st : Standing) : Act Unit := do
      prepared.forM (redirect run false)
      let _ ← evaluate n st c
    pause
    let p ← current
    if !isBackground && st.last && !p.hasTraps then
      update subshell
      childOf n (body { st with last := true })
      return 0
    else
      let empty ← addDescription (.device .null)
      let job ← addJob
      let change (p : Process) : Process :=
        if isBackground then inBackground true empty (subshell p) else subshell p
      let st := { tested := st.tested && !isBackground, last := true }
      let id ← split change (childOf n (body st))
      joinJob job id isBackground
      if isBackground then return 0 else finishJob job
termination_by structural n => n

/-- Runs the stages of a pipeline side by side. -/
def runPipeline : Nat → Standing → Bool → List Command → Act Nat
  | 0, _, _, _ => finish (.code 2)
  | n + 1, st, isBackground, stages => do
    pause
    let job ← addJob
    startStages n st.tested isBackground job none stages
    if isBackground then return 0 else finishJob job
termination_by structural n => n

/-- Starts stages; the first one reads from a descriptor, if that is given. -/
def startStages : Nat → Bool → Bool → Nat → Option Nat → List Command → Act Unit
  | 0, _, _, _, _, _ => return ()
  | _ + 1, _, _, _, _, [] => return ()
  | n + 1, tested, isBackground, job, before, c :: rest => do
    let empty ← addDescription (.device .null)
    let pipe ← if rest.isEmpty then pure none else do
      let ends ← addPipe
      pure (some ends)
    let after := (← current).freeDescriptor
    match pipe with
    | some (source, _) => update fun p => p.bind after source
    | none => pure ()
    let change (p : Process) : Process :=
      let p := subshell p
      let p := if isBackground then inBackground before.isNone empty p else p
      let p := match before with
        | some d => match p.descriptor? d with
          | some index => (p.bind 0 index).close d
          | none => p
        | none => p
      match pipe with
      | some (_, sink) => (p.close after).bind 1 sink
      | none => p
    let id ← split change (childOf n do
      let _ ← evaluate n { tested, last := true } c)
    match before with
    | some d => update fun p => p.close d
    | none => pure ()
    joinJob job id isBackground
    startStages n tested isBackground job (pipe.map fun _ => after) rest
termination_by structural n => n

/-- Runs a command for its output, of which the line ends at the end are dropped. -/
def output : Nat → Command → Act Text
  | 0, _ => finish (.code 2)
  | n + 1, c => do
    match c with
    | .nothing => return []
    | c =>
      pause
      let (source, sink) ← addPipe
      let d := (← current).freeDescriptor
      update fun p => p.bind d source
      let job ← addJob
      let id ← split (fun p => ((subshell p).close d).bind 1 sink) (childOf n do
        let _ ← evaluate n { last := true } c)
      joinJob job id false
      let t := (← readAll d).toOption.getD []
      update fun p => p.close d
      let status ← finishJob job
      update fun p => { p with substituted := status }
      let t := t.filter (· != '\x00')
      return (t.reverse.dropWhile (· == '\n')).reverse
termination_by structural n => n

/-- Runs a plain command. -/
def runPlain : Nat → Standing → Nat → List Word → List Word → List Redirect → Act Nat
  | 0, _, _, _, _, _ => finish (.code 2)
  | n + 1, st, line, assignments, words, redirects => do
    let run : OutputOf := output n
    spend 5
    pause
    update fun p => { p with line, substituted := 0 }
    let (first, rest) ← firstArguments run words
    let called ← first.head?.mapM find
    let isShell := match called with
      | some .builtin => true
      | _ => false
    let name := first.headD []
    let others ← remainingArguments run (isShell && takesAssignments name) rest
    let arguments := first ++ others
    let isExec := isShell && name == "exec".toList
    let isSpecial := isShell && specialNames.contains (String.ofList name)
    let scopes := (← current).scopes.length
    let sets := (← current).setAside.length
    let isOwn := !arguments.isEmpty && !isSpecial
    if isOwn then openScope
    let leaveOut (status : Nat) : Act Nat := do
      if !redirects.isEmpty then closeSetAside isExec
      closeSetsAside sets
      closeScopes scopes
      return status
    let prepared ← redirects.mapM (prepare run)
    if !redirects.isEmpty then openSetAside
    match ← attempt (prepared.forM (redirect run true)) with
    | .error .fault =>
      setStatus 2
      if isSpecial then stop .fault else leaveOut 2
    | .error why => stop why
    | .ok _ =>
      let assigned ← assignments.mapM fun w => do
        let t ← expandText run w
        let (name, value) := (assignment? t).getD (t, [])
        if isOwn then makeLocal name (some value) true
        else if isExec && 1 < arguments.length then declare name (some value) true false
        else setVariable name value
        return t
      trace run (!redirects.isEmpty) (assigned ++ arguments)
      -- assignments may have changed where programs are found
      let isKnown := isShell && regularNames.contains (String.ofList name)
      match ← if isKnown then pure called else first.head?.mapM find with
      | some (.missing why) =>
        warn (name ++ ": ".toList ++ why)
        setStatus 127
        if isSpecial then stop .fault else leaveOut 127
      | some (.program _) =>
        if st.last && !(← current).hasTraps then
          runFile n name arguments.tail
          return 0
        else
          let job ← addJob
          let id ← split (fun p => p) (do
            let _ ← attempt (runFile n name arguments.tail)
            finish (.code (← current).status))
          joinJob job id false
          let status ← finishJob job
          leaveOut status
      | some (.function body) =>
        callFunction n st body arguments.tail
        noteEnds none manyEnds
        leaveOut (← current).status
      | some .builtin =>
        match ← attempt (runBuiltin n st name arguments.tail) with
        | .ok _ => pure ()
        | .error why => if why != .fault || isSpecial then stop why
        noteEnds none manyEnds
        leaveOut (← current).status
      | none =>
        setStatus (← current).substituted
        noteEnds none manyEnds
        leaveOut (← current).status
termination_by structural n => n

/-- Calls a function. -/
def callFunction : Nat → Standing → Command → List Text → Act Unit
  | 0, _, _, _ => finish (.code 2)
  | n + 1, st, body, arguments => do
    let before ← current
    update fun p =>
      { p with arguments, optionIndex := 1, optionOffset := none, loops := 0 }
    let result ← attempt (evaluate n { tested := st.tested } body)
    update fun p => { p with
      arguments := before.arguments
      optionIndex := before.optionIndex
      optionOffset := before.optionOffset
      loops := before.loops
      skip := match p.skip with
        | .function _ => .none
        | skip => skip }
    match result with
    | .ok _ => return ()
    | .error why => stop why
termination_by structural n => n

/-- Runs a command of the shell; what it has written is passed on in any case. -/
def runBuiltin : Nat → Standing → Text → List Text → Act Unit
  | 0, _, _, _ => finish (.code 2)
  | n + 1, st, name, arguments => do
    let before := (← current).running
    update fun p => { p with running := some name }
    let action : Act Nat :=
      if name == "eval".toList then
        if arguments.isEmpty then return 0
        else evalText n { tested := st.tested } (joined [' '] arguments)
      else if name == ['.'] then runDot n arguments
      else if name == "exec".toList then
        match arguments with
        | [] => return 0
        | program :: rest => do
          runFile n program rest
          return 0
      else match Builtin.plain? name with
        | some command => command arguments
        | none => return 0
    let result ← attempt action
    let isPassed ← flush
    match result with
    | .ok status =>
      if isPassed then setStatus status
      else
        warn (name ++ ": I/O error".toList)
        setStatus (status ||| 1)
    | .error _ => pure ()
    update fun p => { p with running := before }
    match result with
    | .ok _ => return ()
    | .error why => stop why
termination_by structural n => n

/-- Runs the commands of a file in this shell. -/
def runDot : Nat → List Text → Act Nat
  | 0, _ => finish (.code 2)
  | n + 1, arguments => do
    match ← Builtin.operands arguments with
    | [] => return 0
    | name :: _ =>
      let p ← current
      let tree ← view
      let isFile (path : Text) : Bool := match tree.lookup (toUnicode path) with
        | .ok (_, .file ..) => true
        | _ => false
      let path ← if name.contains '/' then pure name else
        match (placesOf (p.valueOr "PATH" []) name).find? isFile with
        | some path => pure path
        | none => fault (name ++ ": not found".toList)
      match ← scriptText path with
      | .error cause => refuseScript path cause
      | .ok t =>
        update fun p => { p with running := some path }
        let status ← runReader n {} true (Reader.ofText t 1) 0
        update fun q => { q with
          lineRead := p.lineRead
          skip := match q.skip with
            | .function _ => .none
            | skip => skip }
        return status
termination_by structural n => n

/-- Evaluates the commands of a text in this shell. -/
def evalText : Nat → Standing → Text → Act Nat
  | 0, _, _ => finish (.code 2)
  | n + 1, st, t => do
    let lineRead := (← current).lineRead
    let status ← runReader n st false (Reader.ofText t 1) 0
    update fun p => { p with lineRead }
    return status
termination_by structural n => n

/-- Evaluates the commands that a reader gives, up to its end or until something is left; gives the
last status. -/
def runReader : Nat → Standing → Bool → Reader → Nat → Act Nat
  | 0, _, _, _, _ => finish (.code 2)
  | n + 1, st, isFile, r, status => do
    let p ← current
    let r := { r with aliases := p.aliases, nextText := p.nextText }
    match r.nextCommand? with
    | .error e =>
      if isFile then echoLines p (firstLines (e.line - r.line + 1) r.left) []
      update fun p => { p with line := e.line, lineRead := e.line }
      fault e.text
    | .ok (none, r') =>
      if isFile then echoLines p r.left r'.left
      return status
    | .ok (some c, r') =>
      if isFile then echoLines p r.left r'.left
      update fun p => { p with
        texts := r'.texts ++ p.texts, nextText := r'.nextText, lineRead := r'.line }
      let after ← evaluate n { st with last := st.last && r'.atEnd } c
      let status := match c with
        | .nothing => status
        | _ => after
      if (← current).skip != .none then return status
      else runReader n st isFile { r' with texts := [] } status
termination_by structural n => n

/-- Does what traps ask for when their signals have come. -/
def takeSignals : Nat → Act Unit
  | 0 => return ()
  | n + 1 => do
    let p ← current
    if !p.pending.isEmpty then
      let status := p.kept.getD p.status
      update fun q => { q with kept := some status }
      runTraps n status (p.pending.mergeSort fun a b => decide (a ≤ b))
      update fun q => { q with kept := p.kept }
termination_by structural n => n

/-- Runs the traps of signals, after each of which the status is as it was. -/
def runTraps : Nat → Nat → List Nat → Act Unit
  | 0, _, _ => return ()
  | _ + 1, _, [] => return ()
  | n + 1, status, signal :: rest => do
    let p ← current
    if p.skip == .none then
      update fun p => { p with pending := p.pending.filter (· != signal) }
      match p.trap? signal with
      | none => pure ()
      | some t =>
        let _ ← evalText n {} t
        if (← current).skip != .function false then setStatus status
      runTraps n status rest
termination_by structural n => n

/-- Ends a shell that has stopped for a reason: redirections are undone, the trap of the end is run,
and the process is over. -/
def endShell : Nat → Option Stop → Act Unit
  | 0, _ => finish (.code 2)
  | n + 1, why => do
    let reset (why : Option Stop) : Act Unit := do
      let p ← current
      match p.kept with
      | some status =>
        if why == some .exit || p.skip == .function true then setStatus status
      | none => pure ()
      closeSetsAside 0
      update fun p => { p with kept := none, skip := .none, loops := 0, tracing := false }
    reset why
    let p ← current
    update fun p => { p with running := none }
    match p.trap? 0 with
    | some t =>
      update fun q => { q with
        kept := some q.status, traps := q.traps.filter fun trap => trap.1 != 0 }
      match ← attempt (evalText n {} t) with
      | .ok _ =>
        update fun p => { p with skip := .function true }
        reset none
      | .error why => reset (some why)
    | none => pure ()
    let _ ← flush
    finish (.code ((← current).status % 256))
termination_by structural n => n

/-- Turns the process into one that runs the program of a name. -/
def runFile : Nat → Text → List Text → Act Unit
  | 0, _, _ => finish (.code 2)
  | n + 1, name, arguments => do
    match imageIn (← view) (placesOf ((← current).valueOr "PATH" []) name) name arguments with
    | .error cause => refuseStart name cause
    | .ok image =>
      update newProgram
      runImage n image
termination_by structural n => n

/-- Turns the process into one that runs a program. -/
def runImage : Nat → Image → Act Unit
  | 0, _ => finish (.code 2)
  | n + 1, image => do
    update fun p => { p with name := image.name }
    spend startCost
    pause
    if image.program == "sh".toList || image.program == "dash".toList then
      runShell n image.name image.arguments
    else match Program.find? image.program with
      | some program => finish (.code (← program image.arguments))
      | none => finish (.code 127)
termination_by structural n => n

/-- Runs the shell as a program. -/
def runShell : Nat → Text → List Text → Act Unit
  | 0, _, _ => finish (.code 2)
  | n + 1, name, arguments => do
    beginScript name
    update fun p => { p with line := 0 }
    childOf n do
      let (isGiven, rest) ← shellOptions arguments.length false arguments
      let readsInput := (← current).has "stdin"
      if isGiven then
        match rest with
        | [] => fault "-c requires an argument".toList
        | text :: rest =>
          update fun p => { p with
            name := rest.headD name, scriptId := p.id, line := 1, arguments := rest.tail }
          let _ ← evalText n { last := !readsInput } text
      if readsInput || (rest.isEmpty && !isGiven) then
        update fun p => { p with
          arguments := rest, line := 1, settings := Setting.turn "stdin" true p.settings }
        let t := (← readAll 0).toOption.getD []
        let _ ← runReader n {} true (Reader.ofText t 1) 0
      else if !isGiven then
        let path := rest.headD []
        match ← scriptText path with
        | .error cause => refuseScript path cause
        | .ok t =>
          update fun p => { p with name := path, arguments := rest.tail, line := 1 }
          let _ ← runReader n {} true (Reader.ofText t 1) 0
termination_by structural n => n

end

end TargetPicker.Shell
