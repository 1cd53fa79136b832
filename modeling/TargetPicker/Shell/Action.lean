import TargetPicker.Shell.Machine

/-!
# Actions

What processes do.  Several processes run side by side, so an action can stop in the middle and be
resumed when others have changed the machine: a `Trace` is a run up to where it stops.

An action is given what follows it, once for the case that it yields a value and once for the case
that a command stops the script (`Stop`).  A new process is a second continuation of the same
machine (`Act.split`).
-/

namespace TargetPicker.Shell

/-- Why a script stops. -/
inductive Stop where
  /-- A fault, which some commands take up. -/
  | fault
  /-- The script has come to its end. -/
  | ending
  /-- The script was told to end. -/
  | exit
  deriving DecidableEq, Repr, Inhabited

/-- A run of a process up to where others may run. -/
inductive Trace where
  /-- The process has ended. -/
  | ended (m : Machine)
  | paused (m : Machine) (resume : Machine → Trace)
  /-- There is a new process, which runs `other`. -/
  | split (m : Machine) (id : Nat) (other resume : Machine → Trace)

/-- An action, given what follows it. -/
def Act (α : Type) : Type := (α → Machine → Trace) → (Stop → Machine → Trace) → Machine → Trace

namespace Act

instance : Monad Act where
  pure a := fun k _ m => k a m
  bind x f := fun k stop m => x (fun a m => f a k stop m) stop m

instance : MonadStateOf Machine Act where
  get := fun k _ m => k m m
  set m := fun k _ _ => k () m
  modifyGet f := fun k _ m => let (a, m) := f m; k a m

instance {α : Type} : Inhabited (Act α) := ⟨fun _ stop m => stop .ending m⟩

/-! ## Control -/

/-- Stops the script. -/
def stop {α : Type} (why : Stop) : Act α := fun _ stop m => stop why m

/-- What an action yields, or why it stops. -/
def attempt {α : Type} (x : Act α) : Act (Except Stop α) :=
  fun k _ m => x (fun a m => k (.ok a) m) (fun why m => k (.error why) m) m

/-- Lets other processes run that are ready earlier. -/
def pause : Act Unit := fun k _ m => .paused m (k ())

/-- Lets other processes run until something has come. -/
def await (waiting : Waiting) : Act Unit := fun k _ m =>
  .paused { m with current := { m.current with waiting } } (k ())

/-- Ends the process. -/
def finish {α : Type} (how : ExitStatus) : Act α := fun _ _ m => .ended (m.finish how)

/-! ## The running process -/

/-- The process that is running. -/
def current : Act Process := do return (← get).current

/-- Changes the process that is running. -/
def update (f : Process → Process) : Act Unit := modify fun m => { m with current := f m.current }

/-- Lets time pass, in microseconds. -/
def spend (time : Nat) : Act Unit := update fun p => { p with time := p.time + time }

/-- Sets the status of the last command. -/
def setStatus (status : Nat) : Act Unit := update fun p => { p with status }

/-! ## Processes -/

/-- The time after which a new process starts, the time that its start takes the old one, and the
further delay of processes in the background. -/
def splitDelay : Nat := 500
def splitCost : Nat := 200
def backgroundDelay : Nat := 2000

/-- Starts a process that is a copy of the running one apart from what `change` does to it; gives
its number. -/
def split (change : Process → Process) (body : Act Unit) : Act Nat := fun k _ m =>
  let id := m.nextProcess
  let p := m.current
  let child := change { p with id, parent := p.id, time := p.time + splitDelay }
  let m := { m with
    nextProcess := id + 1
    others := child :: m.others
    current := { p with time := p.time + splitCost } }
  let last (m : Machine) : Trace := .ended (m.finish (.code (m.current.status % 256)))
  .split m id (fun m => body (fun _ m => last m) (fun _ m => last m) m) (k id)

/-- Takes notice of a child that has ended by now, the oldest first. -/
def reap : Act (Option (Nat × ExitStatus)) := do
  let m ← get
  let ended := (m.children m.current.id).filter fun p =>
    p.ending.isSome && p.time ≤ m.current.time
  match ended with
  | [] => return none
  | first :: rest =>
    let found := rest.foldl (fun a b => if b.id < a.id then b else a) first
    set { m with others := m.others.filter fun p => p.id != found.id }
    return found.ending.map fun how => (found.id, how)

/-- Waits for the end of a child, if there is one. -/
def awaitChild : Act Unit := do
  let m ← get
  let children := m.children m.current.id
  match children.filter (·.ending.isSome) with
  | [] => if !children.isEmpty then await .child
  | first :: rest =>
    let time := rest.foldl (fun t p => min t p.time) first.time
    update fun p => { p with time := max p.time time }

/-- Sends a signal to a process; tells whether there is one. -/
def send (signal id : Nat) : Act Bool := do
  let m ← get
  let p := m.current
  if id == p.id then
    if signal == Signal.kill then finish (.signal signal)
    else if signal == 0 || p.ignores signal then return true
    else if (p.trap? signal).isSome then
      update (·.noteSignal signal)
      return true
    else if Signal.isHarmless signal then return true
    else finish (.signal signal)
  else
    set (m.signalOther signal id)
    return m.others.any fun q => q.id == id

/-! ## Descriptions -/

/-- What a descriptor stands for, with its place. -/
def description (descriptor : Nat) : Act (Option (Nat × Description)) := do
  let m ← get
  return m.describes m.current descriptor

/-- Replaces a description. -/
def setDescription (index : Nat) (d : Description) : Act Unit :=
  modify fun m => { m with descriptions := m.descriptions.setIfInBounds index d }

/-- A new description; gives its place. -/
def addDescription (d : Description) : Act Nat := do
  let m ← get
  set { m with descriptions := m.descriptions.push d }
  return m.descriptions.size

/-- A new pipe; gives the places of the end that is read from and of the other one. -/
def addPipe : Act (Nat × Nat) := do
  let m ← get
  set { m with channels := m.channels.push {} }
  let source ← addDescription (.source m.channels.size)
  let sink ← addDescription (.sink m.channels.size)
  return (source, sink)

/-! ## The file tree -/

/-- What stands at the place of an open descriptor. -/
def descriptorEntry : Description → Entry
  | .device .zero => .link "/dev/zero".toList
  | .device .full => .link "/dev/full".toList
  | .device _ => .link "/dev/null".toList
  | .source _ | .sink _ => .pipe
  | .file path _ _ => .link (['/'] ++ joined ['/'] path)
  | .directory => .directory

/-- The file tree as the running process sees it, with the places of its descriptors. -/
def view : Act FileTree := do
  let m ← get
  let p := m.current
  let entries := p.descriptors.filterMap fun (n, _) => (m.describes p n).map fun (_, d) =>
    (FileTree.descriptorDirectory ++ [Text.decimal n], descriptorEntry d)
  return { m.tree with entries := entries ++ m.tree.entries, workingDirectory := p.directory }

/-- Changes the file tree. -/
def changeTree (f : FileTree → FileTree) : Act Unit := modify fun m => { m with tree := f m.tree }

/-- Puts an entry into the file tree. -/
def insertEntry (path : Path) (entry : Entry) : Act Unit :=
  changeTree fun tree => tree.insert path entry

/-- The contents of the file at an absolute path. -/
def fileContent (path : Path) : Act Text := do
  match (← get).tree.entry? path with
  | some (.file content _) => return ofBytes content
  | _ => return []

/-- Takes an entry out of the file tree.  A file that is open is kept where no path leads: under the
empty name. -/
def eraseEntry (path : Path) : Act Unit := do
  let m ← get
  let isOpen := m.descriptions.any fun d => match d with
    | .file p _ _ => p == path
    | _ => false
  let hidden : Path := [[], Text.decimal m.descriptions.size]
  if isOpen then
    modify fun m => { m with descriptions := m.descriptions.map fun d => match d with
      | .file p offset use => .file (if p == path then hidden else p) offset use
      | d => d }
    match m.tree.entry? path with
    | some entry =>
      let _ ← addDescription (.device .null)
      changeTree fun tree => tree.insert hidden entry
    | none => pure ()
  changeTree fun tree => tree.erase path

/-- The failure of a file that should be new. -/
def alreadyThere : Failure := ⟨.other, "File exists (os error 17)".toList⟩

/-- Opens a file that was found. -/
def openFound (path : Path) (use : FileUse) : Entry → Act (Except Failure Nat)
  | .directory => do
    if use == .read then return .ok (← addDescription .directory) else return .error .isADirectory
  | .file _ executable => do
    if use == .write || use == .overwrite then insertEntry path (.file [] executable)
    return .ok (← addDescription (.file path 0 use))
  | .device kind => do return .ok (← addDescription (.device kind))
  | .pipe => do
    match ← description (digitsValue (path.getLast?.getD [])) with
    | some (index, _) => return .ok index
    | none => return .error .missing
  | _ => do return .ok (← addDescription (.device .null))

/-- Opens a path; gives the place of the description.  With `protected` a file that is there is not
written from the start. -/
def openPath (path : Text) (use : FileUse) (isProtected : Bool) : Act (Except Failure Nat) := do
  match (← view).locate (toUnicode path) with
  | .error cause => return .error cause
  | .ok (.found place entry) =>
    match entry with
    | .file .. =>
      if use == .write && isProtected then return .error alreadyThere
      else openFound place use entry
    | _ => openFound place use entry
  | .ok (.absent directory name) =>
    if use == .read || directory == FileTree.descriptorDirectory then return .error .missing
    else if path.getLast? == some '/' then return .error .isADirectory
    else
      let place := directory ++ [name]
      insertEntry place (.file [] false)
      return .ok (← addDescription (.file place 0 use))

/-! ## Reading -/

/-- The reason why a descriptor cannot be read or written. -/
def badDescriptor : Text := "Bad file descriptor".toList

/-- The text of a failure without its number, as programs show it. -/
def reason (cause : Failure) : Text :=
  ofUnicode ((cause.text.reverse.dropWhile (· != '(')).drop 2).reverse

/-- A bound on the number of times that one thing is read or written. -/
def manyTimes : Nat := 10000000

/-- Waits until something has come through a channel, or its end. -/
def awaitInput (channel : Nat) : Nat → Act Unit
  | 0 => return ()
  | n + 1 => do
    let m ← get
    if (m.channel channel).size == 0 && m.hasWriter channel then
      await (.input channel)
      awaitInput channel n

/-- Waits until a channel takes more, or nobody reads it. -/
def awaitRoom (channel : Nat) : Nat → Act Unit
  | 0 => return ()
  | n + 1 => do
    let m ← get
    if !m.hasRoom channel && m.hasReader channel then
      await (.room channel)
      awaitRoom channel n

/-- Reads from a channel once something has come; nothing at its end. -/
def readChannel (channel : Nat) (take : Channel → Text × Channel) : Act Text := do
  awaitInput channel manyTimes
  let m ← get
  let (t, c) := take (m.channel channel)
  set { m with channels := m.channels.setIfInBounds channel c }
  return t

/-- How much a program reads at once. -/
def readSize : Nat := 131072

/-- Reads what a descriptor gives next, cut by `take` from what a file still holds and by
`takeChannel` from a pipe; nothing at the end. -/
def readBy (take : Text → Text) (takeChannel : Channel → Text × Channel) (descriptor : Nat) :
    Act (Except Text Text) := do
  match ← description descriptor with
  | none | some (_, .sink _) => return .error badDescriptor
  | some (_, .device .null) => return .ok []
  | some (_, .device _) => return .ok (take (List.replicate readSize '\x00'))
  | some (_, .directory) => return .error (reason .isADirectory)
  | some (_, .source n) =>
    return .ok (← readChannel n takeChannel)
  | some (index, .file path offset use) =>
    if use == .write || use == .overwrite || use == .append then return .error badDescriptor
    else
      let t := take ((← fileContent path).drop offset)
      setDescription index (.file path (offset + t.length) use)
      return .ok t

/-- Reads some bytes; none at the end. -/
def readSome (descriptor : Nat) : Act (Except Text Text) :=
  readBy (·.take readSize) (·.take readSize) descriptor

/-- The text up to the end of its first line. -/
def firstLine (t : Text) : Text := t.take ((t.takeWhile (· != '\n')).length + 1)

/-- Reads one line, with its end if that is there; `n` bounds the number of its chunks. -/
def readLine (descriptor : Nat) : Nat → Text → Act (Except Text Text)
  | 0, line => return .ok line
  | n + 1, line => do
    match ← readBy firstLine (·.takeLine) descriptor with
    | .error why => return .error why
    | .ok t =>
      if t.isEmpty || t.getLast? == some '\n' then return .ok (line ++ t)
      else readLine descriptor n (line ++ t)

/-- Reads up to the end, in chunks of which the last one comes first; `n` bounds their number. -/
def readRest (descriptor : Nat) : Nat → List Text → Act (Except Text Text)
  | 0, back => return .ok back.reverse.flatten
  | n + 1, back => do
    match ← readSome descriptor with
    | .error why => return .error why
    | .ok [] => return .ok back.reverse.flatten
    | .ok t => readRest descriptor n (t :: back)

/-- Reads up to the end. -/
def readAll (descriptor : Nat) : Act (Except Text Text) := readRest descriptor manyTimes []

/-! ## Writing -/

/-- Writes into a file at an offset, or at its end. -/
def writeFile (index : Nat) (path : Path) (offset : Nat) (use : FileUse) (t : Text) :
    Act Unit := do
  match (← get).tree.entry? path with
  | some (.file content executable) =>
    let bytes := toBytes t
    let offset := if use == .append then content.length else offset
    let gap := List.replicate (offset - content.length) 0
    let written := content.take offset ++ gap ++ bytes ++ content.drop (offset + bytes.length)
    insertEntry path (.file written executable)
    setDescription index (.file path (offset + bytes.length) use)
  | _ => pure ()

/-- Writes to a pipe.  A process that writes where nobody reads is sent a signal. -/
def writeChannel (channel : Nat) (t : Text) : Act (Except Text Unit) := do
  awaitRoom channel manyTimes
  let m ← get
  if m.hasReader channel then
    set { m with channels := m.channels.modify channel fun c => c.push t }
    return .ok ()
  else
    let _ ← send Signal.pipe m.current.id
    return .error "Broken pipe".toList

/-- Writes to a descriptor, unless there is a reason why not. -/
def write (descriptor : Nat) (t : Text) : Act (Except Text Unit) := do
  if t.isEmpty then return .ok ()
  else match ← description descriptor with
    | none | some (_, .source _) | some (_, .directory) => return .error badDescriptor
    | some (_, .device .full) => return .error "No space left on device".toList
    | some (_, .device _) => return .ok ()
    | some (_, .sink n) => writeChannel n t
    | some (index, .file path offset use) =>
      if use == .read then return .error badDescriptor
      else
        writeFile index path offset use t
        return .ok ()

/-- Writes a line to the standard error. -/
def complain (t : Text) : Act Unit := do
  let _ ← write 2 (t ++ ['\n'])

end Act

end TargetPicker.Shell
