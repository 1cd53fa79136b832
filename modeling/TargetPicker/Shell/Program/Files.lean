import TargetPicker.Shell.Program.Basic

/-!
# Programs about files

They show paths and what stands there, and make, change, move and remove files.
-/

namespace TargetPicker.Shell.Program

open Act

/-! ## Paths -/

/-- A path of a name in a directory. -/
def within (directory name : Text) : Text :=
  if directory.getLast? == some '/' then directory ++ name else directory ++ ['/'] ++ name

/-- A path without the slashes at its end, in reverse; a path of slashes alone is left with one. -/
def reversedPath (path : Text) : Text :=
  let back := path.reverse.dropWhile (· == '/')
  if back.isEmpty then path.take 1 else back

/-- The last name of a path. -/
def lastName (path : Text) : Text :=
  let back := reversedPath path
  if back == ['/'] then back else (back.takeWhile (· != '/')).reverse

/-- The directory that a path names something in. -/
def directoryOf (path : Text) : Text :=
  let back := (reversedPath path).dropWhile (· != '/')
  if back.isEmpty then ['.'] else (reversedPath back.reverse).reverse

/-- Shows the last name of a path, without an ending if that is given and is not all of it. -/
def basename (arguments : List Text) : Act Nat := do
  match arguments with
  | [] => refuse "missing operand".toList
  | path :: rest =>
    let name := lastName path
    let ending := rest.headD []
    putLine (if ending.isSuffixOf name && ending != name then
      name.take (name.length - ending.length) else name)
    return 0

/-- Shows the directories that paths name something in. -/
def dirname (arguments : List Text) : Act Nat := do
  if arguments.isEmpty then refuse "missing operand".toList
  else
    put (unlines (arguments.map directoryOf))
    return 0

/-- What stands at a path, links not followed at its end. -/
def itself (path : Text) : Act (Except Failure (Path × Entry)) := do
  return (← view).lookupItself (toUnicode path)

/-- What a path leads to. -/
def target (path : Text) : Act (Except Failure (Path × Entry)) := do
  return (← view).lookup (toUnicode path)

/-- Shows where links lead. -/
def readlink (arguments : List Text) : Act Nat :=
  forEach arguments fun path => do
    match ← itself path with
    | .ok (_, .link t) =>
      putLine (ofUnicode t)
      return 0
    | _ => return 1

/-! ## Directories -/

/-- What is in a directory, by names that do not start with a dot. -/
def namesIn (tree : FileTree) (place : Path) : List Text :=
  ((tree.names place).filter fun name => name.head? != some '.').map ofUnicode

/-- A directory and those below it, each with its names; `n` bounds their depth. -/
def deepListing (tree : FileTree) : Nat → Text → Path → List Text
  | 0, _, _ => []
  | n + 1, path, place =>
    (path ++ ":\n".toList ++ unlines (namesIn tree place)) ::
      (namesIn tree place).flatMap fun name =>
        let inner := place ++ [toUnicode name]
        if tree.entry? inner == some .directory then deepListing tree n (within path name) inner
        else []

/-- How deep directories are nested at most. -/
def depthLimit : Nat := 4096

/-- Shows names of files, one on a line, and what is in directories, with `-R` also in those below
them. -/
def ls (arguments : List Text) : Act Nat :=
  withOptions "1R" "" 2 arguments fun o => do
    let tree ← view
    let paths := if o.operands.isEmpty then [['.']] else o.operands
    let found ← (paths.mergeSort Text.notAfter).filterMapM fun path => do
      match ← target path with
      | .ok (place, entry) => return some (path, place, entry)
      | .error cause =>
        let _ ← failTo "cannot access" path (reason cause)
        return none
    let (directories, files) := found.partition fun f => f.2.2 == .directory
    let blocks := directories.flatMap fun (path, place, _) =>
      if o.has 'R' then deepListing tree depthLimit path place
      else [(if paths.length == 1 then [] else path ++ ":\n".toList) ++
        unlines (namesIn tree place)]
    put (joined ['\n'] ((if files.isEmpty then [] else [unlines (files.map (·.1))]) ++ blocks))
    return if found.length == paths.length then 0 else 2

/-! ## Removing -/

/-- The places below a place, the nearest first. -/
def below (tree : FileTree) (place : Path) : List Path :=
  ((tree.entries.map (·.1)).filter fun p => place.isPrefixOf p && p != place).mergeSort
    fun a b => decide (a.length ≤ b.length)

/-- Removes an entry and all that is below it. -/
def eraseAll (place : Path) : Act Unit := do
  (below (← get).tree place).reverse.forM eraseEntry
  eraseEntry place

/-- Removes files, with `-r` also directories; with `-f` nothing is said of files that are missing. -/
def rm (arguments : List Text) : Act Nat :=
  withOptions "fr" "" 1 arguments fun o => do
    forEach o.operands fun path => do
      match ← itself path with
      | .ok (place, entry) =>
        if entry == .directory && !o.has 'r' then
          failTo "cannot remove" path (reason .isADirectory)
        else
          eraseAll place
          return 0
      | .error cause =>
        if o.has 'f' && cause.kind == .notFound then return 0
        else failTo "cannot remove" path (reason cause)

/-- Removes empty directories. -/
def rmdir (arguments : List Text) : Act Nat :=
  withOptions "" "" 1 arguments fun o =>
    forEach o.operands fun path => do
      match ← itself path with
      | .ok (place, .directory) =>
        if (below (← get).tree place).isEmpty then
          eraseEntry place
          return 0
        else failTo "failed to remove" path "Directory not empty".toList
      | .ok _ => failTo "failed to remove" path (reason .notADirectory)
      | .error cause => failTo "failed to remove" path (reason cause)

/-! ## Making -/

/-- Makes directories, with `-p` also those on the way to them. -/
def mkdir (arguments : List Text) : Act Nat :=
  withOptions "p" "" 1 arguments fun o =>
    forEach o.operands fun path => do
      let names := path.splitOn '/'
      let starts := (List.range (names.length + 1)).map fun n => joined ['/'] (names.take n)
      let steps := if o.has 'p' then starts.filter Text.nonempty else [path]
      forEach steps fun path => do
        match (← view).locate (toUnicode path) with
        | .ok (.absent directory name) =>
          insertEntry (directory ++ [name]) .directory
          return 0
        | .ok (.found _ entry) =>
          if o.has 'p' && entry == .directory then return 0
          else failTo "cannot create directory" path (reason alreadyThere)
        | .error cause => failTo "cannot create directory" path (reason cause)

/-- Makes files that do not exist yet, unless `-c` is given. -/
def touch (arguments : List Text) : Act Nat :=
  withOptions "c" "" 1 arguments fun o =>
    forEach o.operands fun path => do
      match (← view).locate (toUnicode path) with
      | .ok (.absent directory name) =>
        if !o.has 'c' then insertEntry (directory ++ [name]) (.file [] false)
        return 0
      | .ok (.found ..) => return 0
      | .error cause => failTo "cannot touch" path (reason cause)

/-- Sets who may do what with files, written in octal digits; what counts here is whether they can
be run. -/
def chmod (arguments : List Text) : Act Nat := do
  match arguments with
  | [] => refuse "missing operand".toList
  | mode :: paths =>
    if !mode.all fun c => '0' ≤ c && c ≤ '7' then
      refuse ("invalid mode: ".toList ++ quoted mode)
    else forEach paths fun path => do
      match ← target path with
      | .ok (place, .file content _) =>
        let executable := mode.any fun c => c.toNat % 2 == 1
        changeTree fun tree => tree.insert place (.file content executable)
        return 0
      | .ok _ => return 0
      | .error cause => failTo "cannot access" path (reason cause)

/-! ## Copying, moving and linking -/

/-- Gives the sources and the target of each of them to an action: a directory takes them under their
own names. -/
def toTargets (o : Options) (f : Text → Text → Act Nat) : Act Nat := do
  match o.operands.getLast?, o.operands.dropLast with
  | none, _ => refuse "missing file operand".toList
  | some path, [] => refuse ("missing destination file operand after ".toList ++ quoted path)
  | some path, sources =>
    match ← target path with
    | .ok (_, .directory) => forEach sources fun s => f s (within path (lastName s))
    | _ => match sources with
      | [s] => f s path
      | _ => failTo "target" path (reason .notADirectory)

/-- Does something with the place that a path names for something new. -/
def atPlace (what : String) (path : Text) (f : Path → Act Nat) : Act Nat := do
  match (← view).locateBy false (toUnicode path) with
  | .error cause => failTo what path (reason cause)
  | .ok (.found place _) => f place
  | .ok (.absent directory name) => f (directory ++ [name])

/-- Puts a copy of an entry, and of all below it, at a place. -/
def copyTree (source place : Path) (entry : Entry) : Act Unit := do
  let tree := (← get).tree
  insertEntry place entry
  (below tree source).forM fun p => do
    match tree.entry? p with
    | some e => insertEntry (place ++ p.drop source.length) e
    | none => pure ()

/-- Copies files, with `-r` also directories. -/
def cp (arguments : List Text) : Act Nat :=
  withOptions "r" "" 1 arguments fun o => toTargets o fun source path => do
    match ← target source with
    | .error cause => failTo "cannot stat" source (reason cause)
    | .ok (start, entry) =>
      if entry == .directory && !o.has 'r' then
        fail ("-r not specified; omitting directory ".toList ++ quoted source)
      else atPlace "cannot create" path fun place => do
        copyTree start place entry
        return 0

/-- Lets descriptions of a file and of those below it follow it to another place. -/
def moveOpen (start place : Path) : Act Unit :=
  let moved (p : Path) : Path :=
    if start.isPrefixOf p then place ++ p.drop start.length else p
  modify fun m => { m with descriptions := m.descriptions.map fun d => match d with
    | .file p offset use => .file (moved p) offset use
    | d => d }

/-- Moves files and directories. -/
def mv (arguments : List Text) : Act Nat :=
  withOptions "f" "" 1 arguments fun o => toTargets o fun source path => do
    match ← itself source with
    | .error cause => failTo "cannot stat" source (reason cause)
    | .ok (start, entry) => atPlace "cannot move to" path fun place => do
      let isSame := (← target source).toOption.any fun found => found.1 == place
      if isSame || place == start then
        fail (quoted source ++ " and ".toList ++ quoted path ++ " are the same file".toList)
      else
        if ((← get).tree.entry? place).isSome then eraseEntry place
        copyTree start place entry
        moveOpen start place
        eraseAll start
        return 0

/-- Makes symbolic links. -/
def ln (arguments : List Text) : Act Nat :=
  withOptions "s" "" 1 arguments fun o => toTargets o fun source path =>
    atPlace "failed to create symbolic link" path fun place => do
      if ((← get).tree.entry? place).isSome then
        failTo "failed to create symbolic link" path (reason alreadyThere)
      else
        insertEntry place (.link (toUnicode source))
        return 0

end TargetPicker.Shell.Program
