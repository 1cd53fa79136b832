import TargetPicker.Input.ReadEvent

/-!
# A tree of files

The files that a makefile is read from and that commands find: a finite map from absolute paths to
entries, with a working directory from which relative paths start.

`FileTree.locate` follows a path through the tree.  Symbolic links are followed from the directory
that holds them, at most `linkLimit` of them; only a directory can be passed through.  What is not
there is told apart by the last component: its directory may exist, so that it could be made.
-/

namespace TargetPicker

/-! ## Failures of the file system -/

namespace Failure

def missing : Failure := ⟨.notFound, "No such file or directory (os error 2)".toList⟩

def permissionDenied : Failure := ⟨.permissionDenied, "Permission denied (os error 13)".toList⟩

def notADirectory : Failure := ⟨.notADirectory, "Not a directory (os error 20)".toList⟩

def isADirectory : Failure := ⟨.isADirectory, "Is a directory (os error 21)".toList⟩

def nameTooLong : Failure := ⟨.invalidFilename, "File name too long (os error 36)".toList⟩

def tooManyLinks : Failure :=
  ⟨.filesystemLoop, "Too many levels of symbolic links (os error 40)".toList⟩

/-- A path cannot hold the character zero. -/
def zeroInPath : Failure :=
  ⟨.invalidInput, "file name contained an unexpected NUL byte".toList⟩

end Failure

/-! ## Trees -/

/-- The devices that do not depend on the machine. -/
inductive Device where
  /-- Always empty; forgets what is written to it. -/
  | null
  /-- Gives the byte zero without end. -/
  | zero
  /-- Like the one before, but has no room for what is written. -/
  | full
  deriving DecidableEq, Repr, Inhabited

/-- What stands at a path. -/
inductive Entry where
  | file (content : Bytes) (executable : Bool)
  | directory
  /-- A symbolic link, with the path as it was written. -/
  | link (target : Text)
  | device (kind : Device)
  /-- A pipe; only descriptors have such places. -/
  | pipe
  /-- A program that comes with the system. -/
  | program (name : Text)
  deriving DecidableEq, Repr, Inhabited

/-- An absolute path, as the components from the root on. -/
abbrev Path := List Text

/-- A tree of files. -/
structure FileTree where
  entries : List (Path × Entry)
  workingDirectory : Path
  deriving Repr, Inhabited

/-- Where a path leads. -/
inductive Place where
  /-- An entry that is no link. -/
  | found (path : Path) (entry : Entry)
  /-- Nothing, but the directory in which it would stand exists. -/
  | absent (directory : Path) (name : Text)
  deriving DecidableEq, Repr, Inhabited

/-- What an opened path is read from. -/
inductive Opened where
  | content (bytes : Bytes)
  /-- A directory can be opened, but every read of it fails. -/
  | directory
  deriving DecidableEq, Repr, Inhabited

namespace FileTree

/-- The longest component, in bytes. -/
def componentLimit : Nat := 255

/-- A path has fewer bytes than this. -/
def pathLimit : Nat := 4096

/-- How many links are followed on the way to one place. -/
def linkLimit : Nat := 40

/-- What stands at an absolute path; the root is a directory. -/
def entry? (tree : FileTree) (path : Path) : Option Entry :=
  if path.isEmpty then some .directory
  else (tree.entries.find? fun e => e.1 == path).map (·.2)

/-- The directory from which a path starts. -/
def start (here : Path) (path : Text) : Path := if path.head? == some '/' then [] else here

/-- Follows components from a directory, with a number of links that may still be followed; a link
at the very end is followed only if `whole` holds. -/
def walk (tree : FileTree) (whole : Bool) (links : Nat) (here : Path) :
    List Text → Except Failure Place
  | [] => .ok (.found here .directory)
  | name :: rest =>
    if name = [] ∨ name = ['.'] then walk tree whole links here rest
    else if name = ['.', '.'] then walk tree whole links here.dropLast rest
    else if componentLimit < (Text.utf8 name).length then .error .nameTooLong
    else match tree.entry? (here ++ [name]) with
      | none => if rest.isEmpty then .ok (.absent here name) else .error .missing
      | some .directory => walk tree whole links (here ++ [name]) rest
      | some (.link target) =>
        if rest.isEmpty && !whole then .ok (.found (here ++ [name]) (.link target))
        else match links with
          | 0 => .error .tooManyLinks
          | links + 1 => walk tree whole links (start here target) (target.splitOn '/' ++ rest)
      | some entry =>
        if rest.isEmpty then .ok (.found (here ++ [name]) entry) else .error .notADirectory
termination_by components => (links, components.length)

/-- Where a path leads; a link at its very end is followed only if `whole` holds. -/
def locateBy (tree : FileTree) (whole : Bool) (path : Text) : Except Failure Place :=
  if path.contains '\x00' then .error .zeroInPath
  else if path.isEmpty then .error .missing
  else if pathLimit ≤ (Text.utf8 path).length then .error .nameTooLong
  else tree.walk whole linkLimit (start tree.workingDirectory path) (path.splitOn '/')

/-- **Where a path leads.** -/
def locate (tree : FileTree) (path : Text) : Except Failure Place := tree.locateBy true path

/-- What stands at a path, links followed. -/
def lookup (tree : FileTree) (path : Text) : Except Failure (Path × Entry) := do
  match ← tree.locate path with
  | .found path entry => return (path, entry)
  | .absent .. => .error .missing

/-- What stands at a path, be it a link. -/
def lookupItself (tree : FileTree) (path : Text) : Except Failure (Path × Entry) := do
  match ← tree.locateBy false path with
  | .found path entry => return (path, entry)
  | .absent .. => .error .missing

/-- Whether a path exists; a failure if that cannot be told. -/
def exists? (tree : FileTree) (path : Text) : Except Failure Bool :=
  match tree.lookup path with
  | .ok _ => .ok true
  | .error cause => if cause.kind = .notFound then .ok false else .error cause

/-- Opens a path for reading. -/
def openFile (tree : FileTree) (path : Text) : Except Failure Opened := do
  match (← tree.lookup path).2 with
  | .file content _ => return .content content
  | .directory => return .directory
  | _ => return .content []

/-! ## Building trees -/

/-- Takes the entry at an absolute path away. -/
def erase (tree : FileTree) (path : Path) : FileTree :=
  { tree with entries := tree.entries.filter fun e => e.1 != path }

/-- Puts an entry at an absolute path in place of what stood there. -/
def insert (tree : FileTree) (path : Path) (entry : Entry) : FileTree :=
  { tree with entries := (path, entry) :: (tree.erase path).entries }

/-- Makes a directory below the working directory, and those on the way to it.  What is there already
is passed, links followed. -/
def withDirectories (tree : FileTree) (names : List Text) : FileTree :=
  ((List.range names.length).map fun n => names.take (n + 1)).foldl
    (fun tree names => match tree.walk true linkLimit tree.workingDirectory names with
      | .ok (.absent directory name) => tree.insert (directory ++ [name]) .directory
      | _ => tree) tree

/-- Puts an entry below the working directory, and makes the directories that lead to it.  Links on
the way are followed, and a file is written through a link that is there. -/
def place (tree : FileTree) (relative : Text) (entry : Entry) : FileTree :=
  let names := (relative.splitOn '/').filter fun name => Text.nonempty name && name != ['.']
  match entry with
  | .directory => tree.withDirectories names
  | entry =>
    let tree := tree.withDirectories names.dropLast
    let isFile := match entry with
      | .file .. => true
      | _ => false
    match tree.walk isFile linkLimit tree.workingDirectory names with
    | .ok (.absent directory name) => tree.insert (directory ++ [name]) entry
    | .ok (.found path (.file ..)) => if isFile then tree.insert path entry else tree
    | _ => tree

/-- The programs that come with the system. -/
def systemPrograms : List Text :=
  ["basename", "cat", "chmod", "cp", "cut", "dirname", "echo", "expr", "false", "grep", "head",
   "ln", "ls", "mkdir", "mv", "readlink", "rm", "rmdir", "sed", "sh", "sleep", "sort", "tail",
   "tee", "touch", "tr", "true", "wc", "yes"].map String.toList

/-- The directory of the descriptors of the process that looks. -/
def descriptorDirectory : Path := ["proc", "self", "fd"].map String.toList

/-- The entries of the directory of devices, by name. -/
def devices : List (String × Entry) :=
  [("null", .device .null), ("zero", .device .zero), ("full", .device .full),
   ("fd", .link "/proc/self/fd".toList), ("stdin", .link "/proc/self/fd/0".toList),
   ("stdout", .link "/proc/self/fd/1".toList), ("stderr", .link "/proc/self/fd/2".toList)]

/-- The tree around an empty working directory: devices, programs, and little else. -/
def fresh : FileTree :=
  let directories :=
    ["bin", "dev", "dev/shm", "etc", "home", "lib", "opt", "proc", "proc/self", "proc/self/fd",
     "root", "run", "sbin", "sys", "tmp", "usr", "usr/bin", "usr/lib", "usr/local",
     "usr/local/bin", "usr/share", "var", "work"]
  let paths := directories.map fun d => ((d.toList.splitOn '/'), Entry.directory)
  let devices := devices.map fun (name, entry) => (["dev".toList, name.toList], entry)
  let programs := systemPrograms.flatMap fun name =>
    [(["bin".toList, name], Entry.program name),
     (["usr".toList, "bin".toList, name], Entry.program name)]
  { entries := devices ++ programs ++ paths, workingDirectory := ["work".toList] }

/-- The names in a directory, in the order of their characters. -/
def names (tree : FileTree) (directory : Path) : List Text :=
  (tree.entries.filterMap fun e =>
    if e.1.dropLast == directory then e.1.getLast? else none).mergeSort Text.notAfter

end FileTree

/-- What the first reads of an opened path give. -/
def Opened.events (reads : Nat) : Opened → List ReadEvent
  | content bytes => [.bytes bytes]
  | directory => List.replicate reads (.failure .isADirectory)

end TargetPicker
