import Mathlib.Data.List.Infix
import Mathlib.Data.List.ModifyLast
import Mathlib.Tactic.Common
import TargetPicker.Proofs.Makefile.LineByLine

/-!
# Joining makefiles

Two contents that meet at the end of a line are read apart, up to one seam: recipe lines at the
start of the second content go on with a recipe that reaches the end of the first one.

Three facts make this up.

* **The cut.**  The commands that lead `a ++ b` go past the border exactly if all of `a` are recipe
  lines, and that can be told from their number (`leadingCommands_append`).
* **The seam.**  By the cut, the rule of every header in `a` is `continued` by the commands that
  lead `b`, and `continued` changes it only if its recipe reaches the border.  Such a header is the
  last one, since recipe lines head no rule (`rules_append`).
* **The shift.**  Where a content stands is in the line numbers of its records and nowhere else
  (`ofLines_shift`).
-/

namespace TargetPicker

/-- The rule, with more commands if the lines of its header and its recipe reach line `n`. -/
def Rule.continued (n : ℕ) (commands : List Text) (r : Rule) : Rule :=
  if r.lineNumber + r.body.length = n then { r with body := r.body ++ commands } else r

/-- The rule, with `n` lines put in front. -/
def Rule.shift (n : ℕ) (r : Rule) : Rule := { r with lineNumber := n + r.lineNumber }

/-- The variable, with `n` lines put in front. -/
def Variable.shift (n : ℕ) (v : Variable) : Variable := { v with lineNumber := n + v.lineNumber }

def Line.shift (n : ℕ) (l : Line) : Line := { l with number := n + l.number }

lemma Rule.continued_nil (n : ℕ) (r : Rule) : r.continued n [] = r := by
  unfold continued
  split
  · rw [List.append_nil]
  · rfl

/-! ## The cut -/

namespace Line

/-- There are as many leading commands as lines only if all lines are recipe lines. -/
lemma length_leadingCommands_eq_iff {lines : List Line} :
    (leadingCommands lines).length = lines.length ↔ ∀ l ∈ lines, l.isRecipe = true := by
  induction lines with
  | nil => simp [leadingCommands]
  | cons l after ih =>
      cases h : l.command? with
      | none => simp [leadingCommands_cons_of_not h, isRecipe, h]
      | some command => simp [leadingCommands_cons_of_command h, isRecipe, h, ih]

/-- **Leading commands go past a border** exactly if they reach it. -/
lemma leadingCommands_append (a b : List Line) :
    leadingCommands (a ++ b)
      = if (leadingCommands a).length = a.length then leadingCommands a ++ leadingCommands b
        else leadingCommands a := by
  induction a with
  | nil => simp [leadingCommands]
  | cons l after ih =>
      rw [List.cons_append]
      cases h : l.command? with
      | none => simp [leadingCommands_cons_of_not h]
      | some command =>
          simp only [leadingCommands_cons_of_command h, ih, List.length_cons,
            Nat.add_right_cancel_iff]
          split <;> rfl

end Line

/-! ## The seam -/

namespace Makefile

variable (identifier : Text)

/-- The first line adds the records that it gives. -/
lemma ofLines_cons (l : Line) (after : List Line) :
    ofLines identifier (l :: after)
      = { identifier
          rules := (Rule.headed? identifier (l :: after)).toList ++ (ofLines identifier after).rules
          definitions := (l.definition? identifier).toList ++
            (ofLines identifier after).definitions } := by
  simp only [ofLines, List.tails_cons, List.filterMap_cons]
  cases Rule.headed? identifier (l :: after) <;> cases l.definition? identifier <;> rfl

/-- Recipe lines by themselves make up nothing. -/
lemma ofLines_of_isRecipe {lines : List Line} (h : ∀ l ∈ lines, l.isRecipe = true) :
    ofLines identifier lines = { identifier, rules := [], definitions := [] } := by
  induction lines with
  | nil => rfl
  | cons l after ih =>
      obtain ⟨hl, hafter⟩ := List.forall_mem_cons.mp h
      rw [ofLines_cons, ih hafter, Rule.headed?_of_isRecipe identifier hl,
        Line.definition?_of_isRecipe identifier hl]
      rfl

end Makefile

variable (identifier : Text)

/-- What follows a header matters to its recipe only. -/
lemma Rule.headed?_append (l : Line) (after b : List Line) :
    Rule.headed? identifier (l :: (after ++ b))
      = (Rule.headed? identifier (l :: after)).map
          (Rule.continued (l.number + after.length) (Line.leadingCommands b)) := by
  unfold Rule.headed?
  dsimp only
  cases LineKind.ofText l.text with
  | ruleHeader target prerequisites =>
      simp only [Option.map_some, continued, Line.leadingCommands_append, Nat.add_left_cancel_iff]
      split <;> rfl
  | _ => rfl

/-- A rule with another one below it does not reach the border. -/
lemma Rule.continued_of_headed? {l : Line} {after : List Line} {r : Rule}
    (h : Rule.headed? identifier (l :: after) = some r)
    (hbelow : (Makefile.ofLines identifier after).rules ≠ []) (commands : List Text) :
    r.continued (l.number + after.length) commands = r := by
  obtain ⟨target, prerequisites, -, rfl⟩ := Rule.headed?_eq_some_iff.mp h
  rw [continued, if_neg]
  intro hreach
  have hrecipe := Line.length_leadingCommands_eq_iff.mp (Nat.add_left_cancel hreach)
  rw [Makefile.ofLines_of_isRecipe identifier hrecipe] at hbelow
  exact hbelow rfl

namespace Makefile

/-- **The seam**: the last rule before the border is the only one that can go on behind it. -/
theorem rules_append (texts : List Text) (b : List Line) (k : ℕ) :
    (ofLines identifier (Line.numberedFrom (k + 1) texts ++ b)).rules
      = (ofLines identifier (Line.numberedFrom (k + 1) texts)).rules.modifyLast
          (Rule.continued (k + texts.length) (Line.leadingCommands b)) ++
        (ofLines identifier b).rules := by
  induction texts generalizing k with
  | nil => rfl
  | cons t texts ih =>
      have hborder : k + 1 + (Line.numberedFrom (k + 1 + 1) texts).length
          = k + (t :: texts).length := by
        simp
        omega
      have hrest := ih (k + 1)
      rw [← Line.length_numberedFrom (k + 1 + 1) texts] at hrest
      rw [Line.numberedFrom_cons, List.cons_append, ofLines_cons, ofLines_cons]
      dsimp only
      rw [hrest, Rule.headed?_append, ← hborder]
      cases h : Rule.headed? identifier (⟨k + 1, t⟩ :: Line.numberedFrom (k + 1 + 1) texts) with
      | none => rfl
      | some r =>
          by_cases hbelow : (ofLines identifier (Line.numberedFrom (k + 1 + 1) texts)).rules = []
          · rw [hbelow]
            rfl
          · rw [Option.map_some, Rule.continued_of_headed? identifier h hbelow, Option.toList_some,
              List.modifyLast_append_of_right_ne_nil _ _ _ hbelow, List.append_assoc]

lemma definitions_append (a b : List Line) :
    (ofLines identifier (a ++ b)).definitions
      = (ofLines identifier a).definitions ++ (ofLines identifier b).definitions :=
  List.filterMap_append

/-- Where no recipe line follows, the border is none. -/
lemma rules_append_of_leadingCommands (texts : List Text) {b : List Line} (k : ℕ)
    (h : Line.leadingCommands b = []) :
    (ofLines identifier (Line.numberedFrom (k + 1) texts ++ b)).rules
      = (ofLines identifier (Line.numberedFrom (k + 1) texts)).rules ++
        (ofLines identifier b).rules := by
  rw [rules_append, h]
  congr 1
  rcases List.eq_nil_or_concat' (ofLines identifier (Line.numberedFrom (k + 1) texts)).rules
    with hrules | ⟨rules, r, hrules⟩
  · rw [hrules]
    rfl
  · rw [hrules, List.modifyLast_concat, Rule.continued_nil]

end Makefile

/-! ## The shift -/

lemma Line.numberedFrom_shift (n k : ℕ) (texts : List Text) :
    Line.numberedFrom (n + k) texts = (Line.numberedFrom k texts).map (Line.shift n) := by
  induction texts generalizing k with
  | nil => rfl
  | cons t texts ih => simp [Line.shift, ← ih, Nat.add_assoc]

namespace Line

variable (n : ℕ)

lemma leadingCommands_shift (lines : List Line) :
    leadingCommands (lines.map (shift n)) = leadingCommands lines := by
  rw [leadingCommands, List.takeWhile_map, List.filterMap_map]
  rfl

lemma definition?_shift (l : Line) :
    (l.shift n).definition? identifier = (l.definition? identifier).map (Variable.shift n) := by
  unfold definition?
  dsimp only [shift]
  cases LineKind.ofText l.text <;> rfl

end Line

lemma Rule.headed?_shift (n : ℕ) (lines : List Line) :
    Rule.headed? identifier (lines.map (Line.shift n))
      = (Rule.headed? identifier lines).map (Rule.shift n) := by
  cases lines with
  | nil => rfl
  | cons l after =>
      rw [List.map_cons]
      unfold Rule.headed?
      dsimp only [Line.shift]
      cases LineKind.ofText l.text <;> simp [Rule.shift, ← Line.leadingCommands_shift n after]

namespace Makefile

/-- **The shift**: lines further down make up the same records further down. -/
theorem ofLines_shift (n : ℕ) (lines : List Line) :
    ofLines identifier (lines.map (Line.shift n))
      = { identifier
          rules := (ofLines identifier lines).rules.map (Rule.shift n)
          definitions := (ofLines identifier lines).definitions.map (Variable.shift n) } := by
  have hrules : (lines.map (Line.shift n)).tails.filterMap (Rule.headed? identifier)
      = (lines.tails.filterMap (Rule.headed? identifier)).map (Rule.shift n) := by
    rw [List.map_tails, List.filterMap_map, List.map_filterMap]
    exact List.filterMap_congr fun suffix _ => Rule.headed?_shift identifier n suffix
  have hdefinitions : (lines.map (Line.shift n)).filterMap (Line.definition? identifier)
      = (lines.filterMap (Line.definition? identifier)).map (Variable.shift n) := by
    rw [List.filterMap_map, List.map_filterMap]
    exact List.filterMap_congr fun l _ => Line.definition?_shift identifier n l
  simp only [ofLines, hrules, hdefinitions]

/-! ## Joining contents -/

/-- **Reading is compositional at the ends of lines.**  The records of the first content come first
and the others follow further down; nothing else changes but the last rule before the border, and
that one only if its recipe reaches the border. -/
theorem parseBytes_append (a b : Bytes) (h : a = [] ∨ a.getLast? = some ReadEvent.lineFeed) :
    ∃ first second : Makefile,
      (parseBytes identifier a).result = .ok first ∧
      (parseBytes identifier b).result = .ok second ∧
      (parseBytes identifier (a ++ b)).result = .ok
        { identifier
          rules := first.rules.modifyLast (Rule.continued (Bytes.lines a).length
              (Line.leadingCommands (Line.numberedFrom 1 (Bytes.lines b)))) ++
            second.rules.map (Rule.shift (Bytes.lines a).length)
          definitions := first.definitions ++
            second.definitions.map (Variable.shift (Bytes.lines a).length) } := by
  refine ⟨_, _, parseBytes_result identifier a, parseBytes_result identifier b, ?_⟩
  have hlines : Line.numberedFrom 1 (Bytes.lines (a ++ b))
      = Line.numberedFrom 1 (Bytes.lines a) ++
        (Line.numberedFrom 1 (Bytes.lines b)).map (Line.shift (Bytes.lines a).length) := by
    rw [Bytes.lines_append a b h, Line.numberedFrom_append, Nat.add_comm 1,
      Line.numberedFrom_shift]
  have hrules := rules_append identifier (Bytes.lines a)
    ((Line.numberedFrom 1 (Bytes.lines b)).map (Line.shift (Bytes.lines a).length)) 0
  rw [Nat.zero_add, Nat.zero_add, Line.leadingCommands_shift, ofLines_shift] at hrules
  have hdefinitions := definitions_append identifier (Line.numberedFrom 1 (Bytes.lines a))
    ((Line.numberedFrom 1 (Bytes.lines b)).map (Line.shift (Bytes.lines a).length))
  rw [ofLines_shift] at hdefinitions
  rw [parseBytes_result, hlines, ← hrules, ← hdefinitions]
  rfl

/-- A border inside a recipe: the rule before it goes on, and the rule behind it moves down. -/
theorem parseBytes_append_inside_recipe :
    (Text.utf8 "all:\n\tcc\n".toList).getLast? = some ReadEvent.lineFeed ∧
    (parseBytes [] (Text.utf8 "all:\n\tcc\n".toList ++ Text.utf8 "\tld\nlib:\n".toList)).result
      = .ok
        { identifier := []
          rules :=
            [{ target := "all".toList, dependencies := [], body := ["cc".toList, "ld".toList],
               identifier := [], lineNumber := 1 },
             { target := "lib".toList, dependencies := [], body := [], identifier := [],
               lineNumber := 4 }]
          definitions := [] } := by
  have hborder : (Text.utf8 "all:\n\tcc\n".toList).getLast? = some ReadEvent.lineFeed := by
    decide +kernel
  obtain ⟨first, second, hfirst, hsecond, hjoined⟩ :=
    parseBytes_append [] _ (Text.utf8 "\tld\nlib:\n".toList) (Or.inr hborder)
  rw [parseBytes_result] at hfirst hsecond
  obtain rfl := Except.ok.inj hfirst
  obtain rfl := Except.ok.inj hsecond
  exact ⟨hborder, hjoined.trans (congrArg Except.ok (by decide +kernel))⟩

end Makefile

end TargetPicker
