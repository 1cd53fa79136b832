import TargetPicker.Host.FileTree
import TargetPicker.Shell.Pattern

/-!
# Patterns of paths

A word that is a pattern stands for the paths of the file tree that are of it, in the order of their
bytes (`pathsOf`).  A pattern of a path is one for each of its names; a name that starts
with a dot is only found by a pattern that does so too.  Names without anything open are not looked
for in directories: it is enough that the path made of them is there.
-/

namespace TargetPicker.Shell

namespace PathPattern

/-- The characters after a bracket that may close it, where one of them does so. -/
def closes : Nat → Text → Bool
  | 0, _ => false
  | n + 1, t =>
    let t := if t.head? == some '\\' then t.drop 1 else t
    match t with
    | [] => false
    | _ :: rest => rest.head? == some ']' || closes n rest

/-- Holds if a pattern stands for several names. -/
def isOpen : Text → Bool
  | [] => false
  | '\\' :: _ :: rest => isOpen rest
  | '*' :: _ | '?' :: _ => true
  | '[' :: rest =>
    let inside := if rest.head? == some '!' then rest.drop 1 else rest
    closes (rest.length + 1) inside || isOpen rest
  | _ :: rest => isOpen rest

/-- A pattern without its escapes. -/
def plain : Text → Text
  | '\\' :: c :: rest => c :: plain rest
  | c :: rest => c :: plain rest
  | [] => []

/-- The patterns of the names of a path. -/
def components (t : Text) : List Text :=
  let pieces := t.splitOn '/'
  pieces.dropLast.map (fun piece => if piece.getLast? == some '\\' then piece.dropLast else piece) ++
    pieces.getLast?.toList

/-- Holds if a pattern finds a name. -/
def finds (pattern name : Text) : Bool :=
  let first := (pattern.dropWhile (· == '\\')).head?
  (name.head? != some '.' || first == some '.') && Glob.accepts (Glob.ofText pattern) name

/-- The paths that start with a text and go on with names of patterns. -/
def paths (tree : FileTree) (start : Text) : List Text → List Text
  | [] => []
  | component :: rest =>
    if !(component :: rest).any isOpen then
      let path := start ++ joined ['/'] ((component :: rest).map plain)
      if (tree.lookupItself (toUnicode path)).toOption.isSome then [path] else []
    else if !isOpen component then paths tree (start ++ plain component ++ ['/']) rest
    else
      match tree.lookup (toUnicode (if start.isEmpty then ['.'] else start)) with
      | .ok (place, .directory) =>
        let names := [['.'], ['.', '.']] ++ (tree.names place).map ofUnicode
        (names.filter (finds component)).flatMap fun name =>
          if rest.isEmpty then [start ++ name] else paths tree (start ++ name ++ ['/']) rest
      | _ => []

end PathPattern

/-- **The paths of a pattern**; none if nothing in it is open. -/
def pathsOf (tree : FileTree) (pattern : Text) : List Text :=
  let components := PathPattern.components pattern
  if components.any PathPattern.isOpen then
    (PathPattern.paths tree [] components).mergeSort Text.notAfter
  else []

end TargetPicker.Shell
