import TargetPicker.Shell.Format
import TargetPicker.Shell.Program.Basic

/-!
# Programs that pass text on

They write their arguments or copy files, as a whole or a part of them, without looking into the
lines.
-/

namespace TargetPicker.Shell.Program

open Act

/-! ## Arguments -/

/-- The arguments of `echo` after its options: whether a line end follows, and whether escapes are
resolved. -/
def echoOptions (ending escapes : Bool) : List Text → Bool × Bool × List Text
  | [] => (ending, escapes, [])
  | a :: rest =>
    if a.head? == some '-' && Text.nonempty a.tail && a.tail.all ['n', 'e', 'E'].contains then
      let escapes := a.tail.foldl
        (fun escapes c => if c == 'e' then true else if c == 'E' then false else escapes) escapes
      echoOptions (ending && !a.tail.contains 'n') escapes rest
    else (ending, escapes, a :: rest)

/-- Writes its arguments, with spaces between them. -/
def echo (arguments : List Text) : Act Nat := do
  let (ending, escapes, words) := echoOptions true false arguments
  let t := joined [' '] words
  let f := if escapes then Format.escaped t else { text := t }
  put (f.text ++ if ending && f.goesOn then ['\n'] else [])
  return 0

/-- Microseconds of a number of seconds such as `0.5`, if it is one. -/
def duration? (t : Text) : Option Nat :=
  let whole := t.takeWhile Char.isDigit
  let fraction := (t.drop whole.length).drop 1
  if t.all (fun c => c.isDigit || c == '.') && t.any Char.isDigit && t.count '.' ≤ 1 then
    some (digitsValue whole * 1000000 +
      digitsValue ((fraction ++ List.replicate 6 '0').take 6))
  else none

/-- Lets time pass. -/
def sleep (arguments : List Text) : Act Nat := do
  match arguments, arguments.find? fun t => (duration? t).isNone with
  | [], _ => refuse "missing operand".toList
  | _, some t => refuse ("invalid time interval ".toList ++ quoted t)
  | _, none =>
    spend ((arguments.filterMap duration?).foldl (· + ·) 0)
    pause
    return 0

/-- Writes a text again and again; `n` bounds the number of times. -/
def repeatText (t : Text) : Nat → Act Nat
  | 0 => return 0
  | n + 1 => do
    put t
    pause
    repeatText t n

/-- Writes its arguments until nobody reads them. -/
def yes (arguments : List Text) : Act Nat :=
  let t := joined [' '] (if arguments.isEmpty then [['y']] else arguments) ++ ['\n']
  repeatText (List.replicate (4096 / t.length + 1) t).flatten manyTimes

/-! ## Whole files -/

/-- Copies what a descriptor gives, as it comes; `n` bounds the chunks. -/
def copyFrom (descriptor : Nat) : Nat → Act (Except Text Unit)
  | 0 => return .ok ()
  | n + 1 => do
    match ← readSome descriptor with
    | .error why => return .error why
    | .ok [] => return .ok ()
    | .ok t =>
      put t
      copyFrom descriptor n

/-- Copies files to the standard output. -/
def cat (arguments : List Text) : Act Nat :=
  withOptions "" "" 1 arguments fun o => do
    let (_, ok) ← inputsBy o.operands fun d => copyFrom d manyTimes
    if (orInput o.operands).contains ['-'] && (← description 0).isNone then
      fail ("closing standard input: ".toList ++ badDescriptor)
    else return if ok then 0 else 1

/-- Copies what comes to descriptors; `n` bounds the chunks. -/
def copyToAll (sinks : List Nat) : Nat → Act Nat
  | 0 => return 0
  | n + 1 => do
    match ← readSome 0 with
    | .error why => fail ("read error: ".toList ++ why)
    | .ok [] => return 0
    | .ok t =>
      sinks.forM fun sink => do
        let _ ← write sink t
      copyToAll sinks n

/-- Copies the standard input to the standard output and to files. -/
def tee (arguments : List Text) : Act Nat :=
  withOptions "" "" 1 arguments fun o => do
    let opened ← o.operands.mapM fun path => do
      match ← openPath path .write false with
      | .ok index =>
        let n := (← current).freeDescriptor
        update fun p => p.bind n index
        return some n
      | .error cause =>
        say (shownName path ++ ": ".toList ++ reason cause)
        return none
    let status ← copyToAll (1 :: opened.filterMap fun sink => sink) manyTimes
    return if opened.all Option.isSome then status else 1

/-! ## Parts of files -/

/-- The number of lines, or with `-c` of bytes, that options ask for. -/
def countOf? (o : Options) : Option Nat :=
  let t := ((o.value? 'c').orElse fun _ => o.value? 'n').getD ['1', '0']
  if Text.nonempty t && t.all Char.isDigit then some (digitsValue t) else none

/-- Writes parts of files, each of them read by `f`, where a count is given to it. -/
def putParts (arguments : List Text)
    (f : (ofBytes : Bool) → Nat → Nat → Act (Except Text Text)) : Act Nat :=
  withOptions "" "nc" 1 arguments fun o => do
    let kind := if o.has 'c' then "bytes" else "lines"
    match countOf? o with
    | none => fail (("invalid number of " ++ kind).toList)
    | some count =>
      let (parts, ok) ← inputsBy o.operands (f (o.has 'c') count)
      put (parts.flatMap (·.2))
      return if ok then 0 else 1

/-- Reads up to where there is enough, or to the end; `n` bounds the chunks. -/
def readEnough (descriptor : Nat) (isEnough : Text → Bool) : Nat → Text → Act (Except Text Text)
  | 0, t => return .ok t
  | n + 1, t => do
    if isEnough t then return .ok t
    else match ← readSome descriptor with
      | .error why => return .error why
      | .ok [] => return .ok t
      | .ok more => readEnough descriptor isEnough n (t ++ more)

/-- Writes the first lines or bytes of files. -/
def head (arguments : List Text) : Act Nat :=
  putParts arguments fun ofBytes count d => do
    let isEnough (t : Text) : Bool := count ≤ if ofBytes then t.length else t.count '\n'
    let front (t : Text) : Text :=
      if ofBytes then t.take count else ((linesOf t).take count).flatten
    return (← readEnough d isEnough manyTimes []).map front

/-- Writes the last lines or bytes of files. -/
def tail (arguments : List Text) : Act Nat :=
  putParts arguments fun ofBytes count d => do
    let last {α : Type} (xs : List α) : List α := xs.drop (xs.length - count)
    let back (t : Text) : Text := if ofBytes then last t else (last (linesOf t)).flatten
    return (← readAll d).map back

/-- Counts the lines, or with `-c` the bytes, of files. -/
def wc (arguments : List Text) : Act Nat :=
  withOptions "cl" "" 1 arguments fun o => do
    let (parts, ok) ← inputs o.operands
    parts.forM fun (path, t) => do
      let name := if o.operands.isEmpty then [] else ' ' :: path
      putLine (Text.decimal (if o.has 'c' then t.length else t.count '\n') ++ name)
    return if ok then 0 else 1

end TargetPicker.Shell.Program
