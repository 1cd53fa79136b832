import TargetPicker.Shell.Expansion

/-!
# Redirections

A redirection lets a descriptor stand for a file, for what another descriptor stands for, or for a
text of the script.  Its words are expanded first (`Act.prepare`).  What the descriptors stood for
before is set aside, so that it can be put back when the command has ended.
-/

namespace TargetPicker.Shell

/-- A redirection of which the words are expanded. -/
inductive Prepared where
  | file (descriptor : Nat) (use : FileUse) (path : Text)
  /-- A copy of a descriptor; without one, the descriptor is closed. -/
  | copy (descriptor : Nat) (source : Option Nat)
  | here (descriptor : Nat) (text : Nat) (expands : Bool)
  deriving Repr, Inhabited

namespace Prepared

/-- The descriptor that is redirected. -/
def descriptor : Prepared → Nat
  | file n _ _ | copy n _ | here n _ _ => n

end Prepared

namespace Act

/-- The descriptor that a text names; without one, a hyphen. -/
def sourceNamed (t : Text) : Act (Option Nat) := do
  match t with
  | ['-'] => return none
  | [c] => if c.isDigit then return some (c.toNat - '0'.toNat) else refuseSource
  | _ => refuseSource
where
  /-- Refuses a text that names no descriptor. -/
  refuseSource {α : Type} : Act α := do
    update fun p => { p with line := p.lineRead }
    fault "Syntax error: Bad fd number".toList

/-- Expands the words of a redirection. -/
def prepare (run : OutputOf) : Redirect → Act Prepared
  | .file n use path => do return .file n use (← expandText run path)
  | .copy n source => do
    match Word.text? source with
    | some t => return .copy n (← sourceNamed t)
    | none => return .copy n (← sourceNamed ((← arguments run source).headD []))
  | .here n text expands => return .here n text expands

/-- Why a file could not be opened. -/
def refuseFile {α : Type} (use : FileUse) (path : Text) (cause : Failure) : Act α := do
  let isAbsent := cause.kind == .notFound || cause.kind == .notADirectory
  let (verb, absent) := if use == .read then ("open", "No such file")
    else ("create", "Directory nonexistent")
  fault ("cannot ".toList ++ verb.toList ++ [' '] ++ path ++ ": ".toList ++
    if isAbsent then absent.toList else reason cause)

/-- Opens what a redirection is about; nothing is left open for a descriptor that is closed. -/
def openPrepared (run : OutputOf) : Prepared → Act (Option Nat)
  | .file _ use path => do
    match ← openPath path use ((← current).has "noclobber") with
    | .ok index => return some index
    | .error cause => refuseFile use path cause
  | .copy _ none => return none
  | .copy _ (some n) => do
    match (← current).descriptor? n with
    | some index => return some index
    | none => fault (Text.decimal n ++ ": ".toList ++ badDescriptor)
  | .here _ text expands => do
    let word := ((← current).texts.find? fun t => t.1 == text).map (·.2) |>.getD []
    let t ← if expands then expandHere run word else pure (Word.unquoted word)
    let (source, _) ← addPipe
    match (← get).descriptions[source]? with
    | some (.source channel) =>
      modify fun m => { m with channels := m.channels.modify channel fun c =>
        if t.isEmpty then c else c.push t }
    | _ => pure ()
    return some source

/-- Sets a descriptor aside in the innermost set of those, unless that was done before. -/
def setAside (n : Nat) : Act Unit := update fun p =>
  match p.setAside with
  | [] => p
  | saved :: outer =>
    if saved.any fun s => s.1 == n then p
    else match p.descriptor? n with
      | none => { p with setAside := ((n, none) :: saved) :: outer }
      | some index =>
        let kept := p.freeDescriptor
        { p.bind kept index with setAside := ((n, some kept) :: saved) :: outer }

/-- Carries a redirection out; with `saves` it can be undone. -/
def redirect (run : OutputOf) (saves : Bool) (r : Prepared) : Act Unit := do
  let isSame := match r with
    | .copy n (some source) => n == source
    | _ => false
  if !isSame then
    let n := r.descriptor
    match r with
    | .copy _ _ =>
      if saves then setAside n
      match ← openPrepared run r with
      | some index => update fun p => p.bind n index
      | none => update fun p => p.close n
    | _ =>
      match ← openPrepared run r with
      | some index =>
        if saves then setAside n
        update fun p => p.bind n index
      | none => pure ()

/-- Opens a set of descriptors that are set aside. -/
def openSetAside : Act Unit := update fun p => { p with setAside := [] :: p.setAside }

/-- Ends the innermost set of descriptors that are set aside; with `drops` the redirections stay. -/
def closeSetAside (drops : Bool) : Act Unit := update fun p =>
  match p.setAside with
  | [] => p
  | saved :: outer =>
    saved.foldl (fun p s => match s with
      | (n, none) => if drops then p else p.close n
      | (n, some kept) =>
        match p.descriptor? kept with
        | some index => if drops then p.close kept else (p.bind n index).close kept
        | none => p) { p with setAside := outer }

/-- Ends sets of descriptors until there are as many as before. -/
def closeSetsAside (count : Nat) : Act Unit := do
  let sets := (← current).setAside.length
  (List.range (sets - count)).forM fun _ => closeSetAside false

end Act

end TargetPicker.Shell
