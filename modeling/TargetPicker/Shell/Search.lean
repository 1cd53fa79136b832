import TargetPicker.Shell.Builtin

/-!
# What commands are found

A command is a function, a command of the shell, or a program in the directories of the search path
(`Act.find`).  A name with a slash is the path of a program.
-/

namespace TargetPicker.Shell

/-- What the name of a command stands for. -/
inductive Found where
  | function (body : Command)
  | builtin
  /-- A program, with the path at which it was found. -/
  | program (path : Text)
  | missing (why : Text)
  deriving Inhabited

namespace Act

/-- The search path that commands are found in whatever the script has set. -/
def standardPath : Text := "/usr/local/sbin:/usr/local/bin:/usr/sbin:/usr/bin:/sbin:/bin".toList

/-- The paths at which a program may be. -/
def placesOf (path name : Text) : List Text :=
  if name.contains '/' then [name]
  else (path.splitOn ':').map fun d => if d.isEmpty then name else d ++ ['/'] ++ name

/-- The reason why nothing was found. -/
def notFound : Text := "not found".toList

/-- Looks for a program in some places; `why` is the reason if there is none. -/
def searchIn (tree : FileTree) (why : Text) : List Text → Except Text Text
  | [] => .error why
  | path :: rest =>
    match tree.lookup (toUnicode path) with
    | .ok (_, .program _) | .ok (_, .file _ true) => .ok path
    | .ok _ => searchIn tree (reason .permissionDenied) rest
    | .error cause =>
      let isAbsent := cause.kind == .notFound || cause.kind == .notADirectory
      searchIn tree (if isAbsent then why else reason cause) rest

/-- **What the name of a command stands for.** -/
def find (name : Text) : Act Found := do
  let p ← current
  match p.functions.find? fun f => f.1 == name with
  | some (_, body) => return .function body
  | none =>
    if name.contains '/' then return .program name
    else if isBuiltin name then return .builtin
    else match searchIn (← view) notFound (placesOf (p.valueOr "PATH" []) name) with
      | .error why => return .missing why
      | .ok place => return .program place

/-! ## Describing -/

/-- Says what a name stands for; gives the status. -/
def describe (name : Text) : Act Nat := do
  let answer (words : String) (t : Text) : Act Nat := do
    printLine (name ++ words.toList ++ t)
    return 0
  if reservedWords.contains (String.ofList name) then answer " is a shell keyword" []
  else match (← current).aliases.find? fun a => a.1 == name with
    | some (_, value) => answer " is an alias for " value
    | none =>
      match ← find name with
      | .function _ => answer " is a shell function" []
      | .builtin =>
        answer (if specialNames.contains (String.ofList name) then " is a special shell builtin"
          else " is a shell builtin") []
      | .program place => answer " is " place
      | .missing _ =>
        printLine (name ++ ": not found".toList)
        return 127

end Act

namespace Builtin

open Act

/-- Says what names stand for. -/
def type (arguments : List Text) : Act Nat := do
  let statuses ← arguments.mapM describe
  return statuses.foldl (· ||| ·) 0

/-- What a command of the shell does with its arguments; it gives the status. -/
abbrev Deed := List Text → Act Nat

/-- The commands of the shell that run no other commands, by name. -/
def all : List (String × Deed) :=
  [(":", fun _ => return 0), ("true", fun _ => return 0), ("false", fun _ => return 1),
   ("alias", aliasCommand), ("unalias", unalias), ("cd", cd), ("pwd", pwd), ("echo", echo),
   ("printf", printf), ("break", leaveLoops false), ("continue", leaveLoops true),
   ("return", leaveFunction), ("exit", exit), ("export", giveAttribute true false),
   ("readonly", giveAttribute false true), ("local", makeOwn), ("unset", unset), ("shift", shift),
   ("set", setSettings), ("getopts", getopts), ("read", read), ("test", test), ("[", bracket),
   ("trap", trap), ("kill", kill), ("wait", wait), ("type", type)]

/-- A command of the shell that runs no other commands. -/
def plain? (name : Text) : Option Deed := (all.find? fun b => b.1.toList == name).map (·.2)

end Builtin

end TargetPicker.Shell
