import TargetPicker.Shell.Basic

/-!
# Patterns

Patterns stand for texts in choices, in the trimming of parameters and in the names of files: a
question mark for any character, a star for any text, a bracket for one of some characters.  In the
text of a pattern a backslash lets the character after it stand for itself.
-/

namespace TargetPicker.Shell

/-- One of the things that a bracket lists. -/
inductive Member where
  | range (first last : Char)
  /-- A class of characters, by name. -/
  | named (name : String)
  deriving DecidableEq, Repr, Inhabited

/-- A piece of a pattern. -/
inductive Glob where
  | exact (c : Char)
  | anyChar
  | anyText
  | oneOf (complement : Bool) (members : List Member)
  deriving DecidableEq, Repr, Inhabited

namespace Member

/-- The classes of characters.  They know ASCII only. -/
def classes : List (String × (Char → Bool)) :=
  let isGraph (c : Char) : Bool := '!' ≤ c && c ≤ '~'
  let isBlank (c : Char) : Bool := c == ' ' || c == '\t'
  [("alnum", Char.isAlphanum), ("alpha", Char.isAlpha), ("blank", isBlank),
   ("cntrl", fun c => c < ' ' || c == '\x7f'), ("digit", Char.isDigit), ("graph", isGraph),
   ("lower", Char.isLower), ("print", fun c => isGraph c || c == ' '),
   ("punct", fun c => isGraph c && !c.isAlphanum), ("space", isSpace), ("upper", Char.isUpper),
   ("xdigit", fun c => c.isDigit || ('a' ≤ c.toLower && c.toLower ≤ 'f'))]

/-- The place of a character in ranges, where bytes from 128 on come first. -/
def place (c : Char) : Int := if c.toNat < 128 then c.toNat else (c.toNat : Int) - 256

/-- Holds of the characters that are meant. -/
def accepts (c : Char) : Member → Bool
  | range first last => place first ≤ place c && place c ≤ place last
  | named name => (classes.find? fun k => k.1 == name).any fun k => k.2 c

end Member

namespace Glob

/-- A named class after an opening bracket inside brackets, and what follows it. -/
def class? (t : Text) : Option (Member × Text) :=
  Member.classes.findSome? fun k =>
    let written := [':'] ++ k.1.toList ++ [':', ']']
    if written.isPrefixOf t then some (.named k.1, t.drop written.length) else none

/-- One of the things that a bracket lists, at the start of a text, and what follows it; nothing at
the end of the text. -/
def member? : Text → Option (Member × Text)
  | [] => none
  | c :: t =>
    match (if c == '[' then class? t else none) with
    | some found => some found
    | none =>
      let (c, t) := match c, t with
        | '\\', d :: t => (d, t)
        | c, t => (c, t)
      match t with
      | '-' :: '\\' :: d :: t => some (.range c d, t)
      | '-' :: d :: t => if d == ']' then some (.range c c, '-' :: d :: t) else some (.range c d, t)
      | t => some (.range c c, t)

/-- What a bracket lists, up to its end, and what follows it.  A closing bracket that comes first is
one of the characters; `n` bounds the number of members. -/
def members? : Nat → Text → Option (List Member × Text)
  | 0, _ => none
  | n + 1, t =>
    match member? t with
    | none => none
    | some (m, ']' :: t) => some ([m], t)
    | some (m, t) => (members? n t).map fun (ms, t) => (m :: ms, t)

/-- The pattern that a text writes; `n` bounds the number of its pieces. -/
def ofTextBy : Nat → Text → List Glob
  | 0, _ => []
  | _ + 1, [] => []
  | n + 1, '\\' :: c :: t => exact c :: ofTextBy n t
  | n + 1, '?' :: t => anyChar :: ofTextBy n t
  | n + 1, '*' :: t => anyText :: ofTextBy n t
  | n + 1, '[' :: t =>
    let (complement, inside) := match t with
      | '!' :: inside => (true, inside)
      | inside => (false, inside)
    match members? (inside.length + 1) inside with
    | some (ms, rest) => oneOf complement ms :: ofTextBy n rest
    | none => exact '[' :: ofTextBy n t
  | n + 1, c :: t => exact c :: ofTextBy n t

/-- The pattern that a text writes. -/
def ofText (t : Text) : List Glob := ofTextBy t.length t

/-- **Holds if a text is of a pattern.** -/
def accepts : List Glob → Text → Bool
  | [], t => t.isEmpty
  | exact c :: g, t => match t with
    | d :: rest => c == d && accepts g rest
    | [] => false
  | anyChar :: g, t => match t with
    | _ :: rest => accepts g rest
    | [] => false
  | oneOf complement ms :: g, t => match t with
    | d :: rest => (ms.any fun m => m.accepts d) != complement && accepts g rest
    | [] => false
  | anyText :: g, t =>
    (List.range (t.length + 1)).any fun n => accepts g (t.drop n)

/-- Holds if some piece can stand for several texts. -/
def isOpen (g : List Glob) : Bool :=
  g.any fun piece => match piece with
    | exact _ => false
    | _ => true

/-- The characters of a pattern in which every piece is exact. -/
def text (g : List Glob) : Text :=
  g.filterMap fun piece => match piece with
    | exact c => some c
    | _ => none

/-- A text without the shortest or longest start, or end, that is of a pattern, if there is one. -/
def trim? (g : List Glob) (atStart longest : Bool) (t : Text) : Option Text :=
  let sizes := List.range (t.length + 1)
  let sizes := if longest then sizes.reverse else sizes
  let cut (n : Nat) : Text × Text :=
    if atStart then (t.take n, t.drop n) else (t.drop (t.length - n), t.take (t.length - n))
  (sizes.find? fun n => accepts g (cut n).1).map fun n => (cut n).2

end Glob

end TargetPicker.Shell
