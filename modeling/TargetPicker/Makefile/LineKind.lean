import TargetPicker.Text.Blank

/-!
# What a line of a makefile is

A line is recognised by its first characters alone.  There are five forms, each a function that
gives the kind of the lines of that form and nothing for other lines:

* `comment?` — the line starts with a hash;
* `directive?` — a dot, a name and a colon;
* `ruleHeader?` — a target and a colon;
* `simple?` and `expanded?` — a name, at most one space, and `:=` or `=`.

`LineKind.ofText` is the kind given by the first form that fits.  The order matters in one place
only: `name:=value` is both a rule header and an assignment, and counts as a rule header.

A *recipe line* starts with a tab.  That is no sixth form: it is a question asked of a line where
the recipe of a rule may go on (`recipeCommand?`).
-/

namespace TargetPicker

/-- The kind of a line, with the parts that the line's form marks off. -/
inductive LineKind where
  | comment
  /-- A line such as `.PHONY: all`. -/
  | directive (name rest : Text)
  /-- A line such as `all: build`; the text after the colon is kept as it stands. -/
  | ruleHeader (target prerequisites : Text)
  /-- A line such as `CC := cc`, a variable that is expanded when it is defined. -/
  | simple (name value : Text)
  /-- A line such as `CC = cc`, a variable that is expanded when it is used. -/
  | expanded (name value : Text)
  | unrecognized
  deriving DecidableEq, Repr, Inhabited

/-! ## The characters of names

Names are ASCII only: `Char.isAlpha` holds of no other letter. -/

/-- The characters of a directive's name. -/
def isDirectiveChar (c : Char) : Bool := c.isAlpha || c == '_'

/-- The characters of a target. -/
def isTargetChar (c : Char) : Bool := c.isAlpha || c == '-'

/-- The characters of a variable's name. -/
def isVariableChar (c : Char) : Bool := c.isAlpha

/-! ## Cutting a line -/

/-- What follows `start`, if the line starts with it. -/
def Text.after? (start line : Text) : Option Text :=
  if start.isPrefixOf line then some (line.drop start.length) else none

/-- The longest start of the line made of characters of `p`, unless it is empty, and the rest. -/
def Text.leading? (p : Char → Bool) (line : Text) : Option (Text × Text) :=
  if (line.takeWhile p).isEmpty then none else some (line.takeWhile p, line.dropWhile p)

/-- Reading `start` off a line is the inverse of writing it in front. -/
theorem Text.after?_eq_some_iff {start line rest : Text} :
    Text.after? start line = some rest ↔ line = start ++ rest := by
  unfold Text.after?
  constructor
  · intro h
    split at h
    · next hp =>
      obtain ⟨t, rfl⟩ := List.isPrefixOf_iff_prefix.mp hp
      rw [List.drop_left, Option.some.injEq] at h
      rw [h]
    · cases h
  · rintro rfl
    rw [if_pos (List.isPrefixOf_iff_prefix.mpr ⟨rest, rfl⟩), List.drop_left]

/-- **Where a name ends.**  The name is not empty, all of it is of `p`, and what follows does not go
on with a character of `p`. -/
theorem Text.leading?_eq_some_iff {p : Char → Bool} {line name rest : Text} :
    Text.leading? p line = some (name, rest) ↔
      line = name ++ rest ∧ name ≠ [] ∧ (∀ c ∈ name, p c = true) ∧
        (∀ c ∈ rest.head?, p c = false) := by
  unfold Text.leading?
  constructor
  · intro h
    split at h
    · cases h
    · next hne =>
      obtain ⟨rfl, rfl⟩ := Prod.mk.inj (Option.some.inj h)
      have hall := List.all_eq_true.mp (List.all_takeWhile (p := p) (l := line))
      have hend := List.head?_dropWhile_not p line
      refine ⟨List.takeWhile_append_dropWhile.symm, by simpa using hne, hall, ?_⟩
      intro c hc
      rw [Option.mem_def] at hc
      rwa [hc] at hend
  · rintro ⟨rfl, hne, hall, hend⟩
    have hstop : rest.takeWhile p = [] ∧ rest.dropWhile p = rest := by
      cases rest with
      | nil => exact ⟨rfl, rfl⟩
      | cons c rest => simp [hend c rfl]
    rw [List.takeWhile_append_of_pos hall, List.dropWhile_append_of_pos hall, hstop.1, hstop.2,
      List.append_nil, if_neg (by simpa using hne)]

/-! ## The forms -/

namespace LineKind

/-- A hash at the very start. -/
def comment? (line : Text) : Option LineKind :=
  (Text.after? ['#'] line).map fun _ => comment

/-- A dot, a name and a colon; what follows is trimmed. -/
def directive? (line : Text) : Option LineKind := do
  let (name, rest) ← Text.leading? isDirectiveChar (← Text.after? ['.'] line)
  return directive name (Text.trim (← Text.after? [':'] rest))

/-- A target and a colon, with no space between them. -/
def ruleHeader? (line : Text) : Option LineKind := do
  let (target, rest) ← Text.leading? isTargetChar line
  return ruleHeader target (← Text.after? [':'] rest)

/-- A name, at most one space and the operator: the name, and the value trimmed. -/
def assignment? (operator line : Text) : Option (Text × Text) := do
  let (name, rest) ← Text.leading? isVariableChar line
  let rest := (Text.after? [' '] rest).getD rest
  return (name, Text.trim (← Text.after? operator rest))

/-- The assignment of a simply expanded variable. -/
def simple? (line : Text) : Option LineKind :=
  (assignment? [':', '='] line).map fun (name, value) => simple name value

/-- The assignment of a recursively expanded variable. -/
def expanded? (line : Text) : Option LineKind :=
  (assignment? ['='] line).map fun (name, value) => expanded name value

/-- The five forms, in the order in which they are tried. -/
def forms : List (Text → Option LineKind) :=
  [comment?, directive?, ruleHeader?, simple?, expanded?]

/-- **The kind of a line**: the first form that fits decides. -/
def ofText (line : Text) : LineKind :=
  (forms.findSome? fun form => form line).getD unrecognized

end LineKind

/-- The command of a recipe line: all leading tabs and all outer blanks are dropped.  Nothing for a
line that does not start with a tab. -/
def recipeCommand? (line : Text) : Option Text :=
  match line with
  | '\t' :: _ => some (Text.trim (line.dropWhile (· == '\t')))
  | _ => none

/-- **The names in the prerequisites of a rule.**  Names are separated by ordinary spaces only;
other blanks are dropped at the ends of a name and kept inside it. -/
def dependencyNames (prerequisites : Text) : List Text :=
  ((prerequisites.splitOn ' ').map Text.trim).filter Text.nonempty

end TargetPicker
