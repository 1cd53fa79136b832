import TargetPicker.Host.FileTree
import TargetPicker.Shell.Basic

/-!
# Starting programs

What a path starts (`imageAt`).  A file that starts with `#!` is run by the interpreter that it names
there, which may be such a file in turn.  Of a file only its first bytes are looked at, so a first
line that is longer counts only if the name of the interpreter surely is whole.
-/

namespace TargetPicker

namespace Failure

/-- The failure of a file that is executable and yet neither a program nor a script. -/
def notExecutable : Failure := ⟨.other, "Exec format error (os error 8)".toList⟩

end Failure

namespace Shell

/-! ## Interpreters -/

/-- How many bytes of a file tell what it is. -/
def headSize : Nat := 256

/-- Holds of the blanks between an interpreter and its argument. -/
def isLineBlank (c : Char) : Bool := c == ' ' || c == '\t'

/-- The line after `#!` as far as it counts.  Where the line does not end within the first bytes,
something has to end the name of the interpreter there. -/
def interpreterLine? (content : Text) : Option Text :=
  let head := content.take headSize
  let head := head ++ List.replicate (headSize - head.length) '\x00'
  match head with
  | '#' :: '!' :: rest =>
    if rest.contains '\n' then some (rest.takeWhile (· != '\n'))
    else if (rest.dropWhile isLineBlank).any fun c => isLineBlank c || c == '\x00' then
      some rest.dropLast
    else none
  | _ => none

/-- The interpreter that a file names in its first line, and the argument after it. -/
def interpreter? (content : Text) : Option (Text × Option Text) := do
  let line ← interpreterLine? content
  let line := ((line.reverse.dropWhile isLineBlank).reverse).dropWhile isLineBlank
  let whole (t : Text) : Text := t.takeWhile (· != '\x00')
  let name := whole (line.takeWhile fun c => !isLineBlank c)
  if line.isEmpty then none
  else match line.drop name.length with
    | c :: rest =>
      if isLineBlank c then some (name, some (whole (rest.dropWhile isLineBlank)))
      else some (name, none)
    | [] => some (name, none)

/-! ## Images -/

/-- What a process runs. -/
structure Image where
  /-- The program of the system. -/
  program : Text
  /-- How the program was called. -/
  name : Text
  arguments : List Text
  deriving DecidableEq, Repr, Inhabited

/-- How many interpreters may run each other. -/
def interpreterLimit : Nat := 5

/-- What a path starts when it is called by a name; `n` interpreters may still follow. -/
def imageBy (tree : FileTree) : Nat → Text → Text → List Text → Except Failure Image
  | n, path, name, arguments => do
    match (← tree.lookup (toUnicode path)).2 with
    | .program program => return { program := ofUnicode program, name, arguments }
    | .file content true =>
      match interpreter? (ofBytes content), n with
      | none, _ => .error .notExecutable
      | some (interpreter, argument), n + 1 =>
        imageBy tree n interpreter interpreter (argument.toList ++ path :: arguments)
      | some (interpreter, _), 0 =>
        match (← tree.lookup (toUnicode interpreter)).2 with
        | .program _ | .file _ true => .error .tooManyLinks
        | _ => .error .permissionDenied
    | _ => .error .permissionDenied

/-- **What a path starts** when it is called by a name. -/
def imageAt (tree : FileTree) (path name : Text) (arguments : List Text) : Except Failure Image :=
  imageBy tree interpreterLimit path name arguments

/-- What a shell starts for a path: a file that is no program is a script. -/
def imageOrScript (tree : FileTree) (path name : Text) (arguments : List Text) :
    Except Failure Image :=
  match imageAt tree path name arguments with
  | .error cause =>
    if cause == .notExecutable then
      .ok { program := "sh".toList, name := "/bin/sh".toList, arguments := path :: arguments }
    else .error cause
  | image => image

/-- What starts from the first of some places that has something to start. -/
def imageIn (tree : FileTree) (places : List Text) (name : Text) (arguments : List Text) :
    Except Failure Image :=
  places.foldl (fun before path => match before with
    | .ok image => .ok image
    | .error _ => match imageOrScript tree path name arguments with
      | .ok image => .ok image
      | .error cause =>
        if cause.kind == .notFound || cause.kind == .notADirectory then before else .error cause)
    (.error .missing)

end Shell

end TargetPicker
