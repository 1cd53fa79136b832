import TargetPicker.Shell.Arithmetic

/-!
# Formatted output

`format` fills a format with arguments, and takes it again from the start as long as arguments are
left.  An argument that is missing counts as empty or zero.  The escapes of the format are also
those of `%b` and of `echo`, where an octal number may start with one more zero.
-/

namespace TargetPicker.Shell

/-- What was formatted, whether output goes on, what is wrong with the arguments, and what is wrong
with the format itself, if anything. -/
structure Formatted where
  text : Text := []
  goesOn : Bool := true
  faults : List Text := []
  failure : Option Text := none
  deriving Repr, Inhabited

namespace Format

/-- The characters that a backslash and a letter stand for. -/
def letters : List (Char × Char) :=
  [('a', '\x07'), ('b', '\x08'), ('e', '\x1b'), ('f', '\x0c'), ('n', '\n'), ('r', '\r'),
   ('t', '\t'), ('v', '\x0b'), ('\\', '\\')]

/-- The byte that octal digits write. -/
def octal (digits : Text) : Char := Char.ofNat (valueIn 8 digits % 256)

/-- The character that an escape stands for, read after its backslash, and what follows it.  A
backslash that escapes nothing stands for itself. -/
def escape (t : Text) : Char × Text :=
  match t with
  | c :: rest =>
    if isOctal c then
      let digits := (t.take 3).takeWhile isOctal
      (octal digits, t.drop digits.length)
    else match letters.find? fun l => l.1 == c with
      | some (_, d) => (d, rest)
      | none => ('\\', t)
  | [] => ('\\', [])

/-- A text with its escapes resolved, after the characters of `back`; `\c` ends all output.  `n`
bounds the characters. -/
def escapedOnto (back : Text) : Nat → Text → Formatted
  | 0, _ => { text := back.reverse }
  | _ + 1, [] => { text := back.reverse }
  | n + 1, '\\' :: t =>
    match t with
    | 'c' :: _ => { text := back.reverse, goesOn := false }
    | '0' :: d :: rest =>
      let (c, rest) := escape (if isOctal d then d :: rest else '0' :: d :: rest)
      escapedOnto (c :: back) n rest
    | t =>
      let (c, rest) := escape t
      escapedOnto (c :: back) n rest
  | n + 1, c :: rest => escapedOnto (c :: back) n rest

/-- A text with its escapes resolved. -/
def escaped (t : Text) : Formatted := escapedOnto [] t.length t

/-! ## Layout -/

/-- How a value is laid out. -/
structure Layout where
  left : Bool := false
  zero : Bool := false
  plus : Bool := false
  space : Bool := false
  width : Nat := 0
  precision : Option Nat := none
  deriving Repr, Inhabited

/-- A text filled up to the width. -/
def Layout.pad (l : Layout) (t : Text) : Text :=
  let fill := List.replicate (l.width - t.length) ' '
  if l.left then t ++ fill else fill ++ t

/-- The sign of a number. -/
def Layout.sign (l : Layout) (negative : Bool) : Text :=
  if negative then ['-'] else if l.plus then ['+'] else if l.space then [' '] else []

/-- The digits of a whole number after its sign, filled up with zeros or blanks. -/
def Layout.whole (l : Layout) (sign digits : Text) : Text :=
  match l.precision with
  | some p =>
    let digits := if p == 0 && digits == ['0'] then [] else digits
    l.pad (sign ++ List.replicate (p - digits.length) '0' ++ digits)
  | none =>
    let zeros := if l.zero && !l.left then l.width - sign.length - digits.length else 0
    l.pad (sign ++ List.replicate zeros '0' ++ digits)

/-! ## Arguments -/

/-- The whole number at the start of an argument, and what follows it; a quote stands for the number
of the character after it. -/
def wholePart (t : Text) : Int × Text :=
  match t with
  | '\'' :: rest | '"' :: rest => ((rest.head?.map (·.toNat)).getD 0, [])
  | _ =>
    let start := t.dropWhile isSpace
    let negative := start.head? == some '-'
    let body := if negative || start.head? == some '+' then start.drop 1 else start
    let digits := leadingNumber body
    let n : Int := numberValue digits
    if digits.isEmpty then (0, t) else (if negative then -n else n, body.drop digits.length)

/-- What is wrong with an argument after whose number `rest` is left. -/
def leftFaults (t rest : Text) (isOut : Bool) : List Text :=
  if Text.nonempty rest then
    [t ++ (if rest == t then ": expected numeric value" else ": not completely converted").toList]
  else if isOut then [t ++ ": Numerical result out of range".toList]
  else []

/-- A whole number of 64 bits, and what is wrong with the argument. -/
def signedArgument (t : Text) : Int × List Text :=
  let (n, rest) := wholePart t
  let least : Int := -greatest - 1
  (max least (min greatest n), leftFaults t rest (n < least || greatest < n))

/-! ## Directives -/

/-- One value laid out; nothing for a directive that is not known. -/
def value? (l : Layout) (kind : Char) (argument : Text) : Option Formatted :=
  let cut (t : Text) : Text := match l.precision with
    | some p => t.take p
    | none => t
  match kind with
  | 's' => some { text := l.pad (cut argument) }
  | 'b' =>
    let e := escaped argument
    some { e with text := l.pad (cut e.text) }
  | 'c' => some { text := l.pad [argument.headD '\x00'] }
  | 'd' | 'i' =>
    let (n, faults) := signedArgument argument
    some { text := l.whole (l.sign (n < 0)) (Text.decimal n.natAbs), faults }
  | _ => none

/-- The flags at the start of a directive. -/
def flags (l : Layout) : Text → Layout × Text
  | '-' :: t => flags { l with left := true } t
  | '0' :: t => flags { l with zero := true } t
  | '+' :: t => flags { l with plus := true } t
  | ' ' :: t => flags { l with space := true } t
  | t => (l, t)

/-- A format filled once: what it gives and the arguments that are left. -/
def once (f : Formatted) : Nat → Text → List Text → Formatted × List Text
  | 0, _, arguments => (f, arguments)
  | _ + 1, [], arguments => (f, arguments)
  | n + 1, '\\' :: rest, arguments =>
    let (c, rest) := escape rest
    once { f with text := f.text ++ [c] } n rest arguments
  | n + 1, '%' :: '%' :: rest, arguments => once { f with text := f.text ++ ['%'] } n rest arguments
  | n + 1, '%' :: start, arguments =>
    let (l, rest) := flags {} start
    let l := { l with width := digitsValue (rest.takeWhile Char.isDigit) }
    let (l, rest) := match rest.dropWhile Char.isDigit with
      | '.' :: rest =>
        ({ l with precision := some (digitsValue (rest.takeWhile Char.isDigit)) },
          rest.dropWhile Char.isDigit)
      | rest => (l, rest)
    match rest with
    | kind :: rest =>
      match value? l kind (arguments.headD []) with
      | some v =>
        let f := { text := f.text ++ v.text, goesOn := v.goesOn, faults := f.faults ++ v.faults }
        if f.goesOn then once f n rest arguments.tail else (f, [])
      | none =>
        let directive := '%' :: start.take (start.length - rest.length)
        let why := directive ++ ": invalid directive".toList
        ({ f with failure := some why, goesOn := false }, [])
    | [] =>
      let why := "missing format character".toList
      ({ f with failure := some why, goesOn := false }, [])
  | n + 1, c :: rest, arguments =>
    let plain := c :: rest.takeWhile fun d => d != '\\' && d != '%'
    once { f with text := f.text ++ plain } n ((c :: rest).drop plain.length) arguments

/-- A format filled as often as there are arguments for it. -/
def all (f : Formatted) (t : Text) : Nat → List Text → Formatted
  | 0, _ => f
  | n + 1, arguments =>
    let (f, left) := once f (t.length + 1) t arguments
    if left.isEmpty || left.length == arguments.length || !f.goesOn then f else all f t n left

end Format

/-- **Fills a format with arguments.** -/
def format (t : Text) (arguments : List Text) : Formatted :=
  Format.all {} t (arguments.length + 1) arguments

end TargetPicker.Shell
