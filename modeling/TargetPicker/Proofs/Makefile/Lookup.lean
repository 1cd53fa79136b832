import Mathlib.Tactic.Common
import TargetPicker.Proofs.Input.StreamLines

/-!
# Looking names up

A makefile is asked for a rule or for a variable by name, and the lines that it was read from answer
(`Makefile.lookups_answer_from_lines`).

* **A rule** comes from the earliest line that starts with the name and a colon, if the name is a
  target.
* **A variable** comes from the earliest line that defines the name, be it as a directive or as a
  plain variable.  A line such as `name:=value` heads a rule and defines nothing.

Both are first answers of lines that are asked in order (`firstAnswer?`).  A line can be asked by
itself, with its number and the lines behind it, since it is a matter of the line alone whether it
has an answer; what the answer is may depend on the rest.
-/

namespace TargetPicker

open Text

/-! ## The first answer -/

/-- **The earliest line** of a kind, between the lines before it and those behind it. -/
structure Earliest (P : Text → Prop) (texts before : List Text) (line : Text) (after : List Text) :
    Prop where
  cut : texts = before ++ line :: after
  holds : P line
  first : ∀ t ∈ before, ¬ P t

namespace Earliest

variable {P : Text → Prop} {texts before after : List Text} {line : Text}

lemma getElem? (h : Earliest P texts before line after) : texts[before.length]? = some line := by
  rw [h.cut, List.getElem?_append_right le_rfl, Nat.sub_self, List.getElem?_cons_zero]

/-- No line of the kind stands above it. -/
lemma length_le (h : Earliest P texts before line after) {i : ℕ} {t : Text}
    (ht : texts[i]? = some t) (hP : P t) : before.length ≤ i := by
  by_contra hlt
  rw [h.cut, List.getElem?_append_left (Nat.lt_of_not_le hlt)] at ht
  exact h.first t (List.mem_of_getElem? ht) hP

end Earliest

/-- **The first answer**, if lines are asked one after the other.  A line is asked with its number
and the lines behind it. -/
def firstAnswer? {α : Type} (answer? : ℕ → Text → List Text → Option α) (n : ℕ) :
    List Text → Option α
  | [] => none
  | t :: after => (answer? n t after).or (firstAnswer? answer? (n + 1) after)

section Answers

variable {α : Type} {answer? : ℕ → Text → List Text → Option α} {P : Text → Prop} {n : ℕ}
  {texts : List Text} (hanswer : ∀ n t after, (answer? n t after).isSome = true ↔ P t)

include hanswer

lemma firstAnswer?_eq_none_iff : firstAnswer? answer? n texts = none ↔ ∀ t ∈ texts, ¬ P t := by
  induction texts generalizing n with
  | nil => simp [firstAnswer?]
  | cons t after ih =>
      rw [firstAnswer?, Option.or_eq_none_iff, ih, List.forall_mem_cons, ← hanswer n t after,
        Option.not_isSome_iff_eq_none]

/-- **The first answer is that of the earliest line** which has one. -/
lemma firstAnswer?_eq_some_iff {a : α} :
    firstAnswer? answer? n texts = some a ↔ ∃ before line after,
      Earliest P texts before line after ∧ answer? (n + before.length) line after = some a := by
  induction texts generalizing n with
  | nil =>
      refine iff_of_false (by simp [firstAnswer?]) ?_
      rintro ⟨before, line, after, ⟨hcut, -, -⟩, -⟩
      simp at hcut
  | cons t after ih =>
      have hasked := hanswer n t after
      rw [firstAnswer?]
      by_cases ht : P t
      · obtain ⟨b, hb⟩ := Option.isSome_iff_exists.mp (hasked.mpr ht)
        rw [hb, Option.some_or, ← hb]
        constructor
        · intro ha
          exact ⟨[], t, after, ⟨rfl, ht, by simp⟩, ha⟩
        · rintro ⟨_ | ⟨t', before⟩, line, rest, ⟨hcut, -, hfirst⟩, ha⟩
          · cases hcut
            exact ha
          · cases hcut
            exact absurd ht (hfirst t List.mem_cons_self)
      · have hnone : answer? n t after = none := by
          rwa [← Option.not_isSome_iff_eq_none, hasked]
        rw [hnone, Option.none_or, ih]
        constructor
        · rintro ⟨before, line, rest, ⟨rfl, hline, hfirst⟩, ha⟩
          refine ⟨t :: before, line, rest, ⟨rfl, hline, ?_⟩, ?_⟩
          · exact List.forall_mem_cons.mpr ⟨ht, hfirst⟩
          · rwa [List.length_cons, ← Nat.add_assoc, Nat.add_right_comm]
        · rintro ⟨_ | ⟨t', before⟩, line, rest, ⟨hcut, hline, hfirst⟩, ha⟩
          · cases hcut
            exact absurd hline ht
          · cases hcut
            refine ⟨before, line, rest, ⟨rfl, hline, ?_⟩, ?_⟩
            · exact (List.forall_mem_cons.mp hfirst).2
            · rwa [List.length_cons, ← Nat.add_assoc, Nat.add_right_comm] at ha

end Answers

/-! ## Lines that head a rule -/

/-- A line that heads a rule for a target: the target, and a colon directly behind it. -/
def IsHeaderOf (target line : Text) : Prop :=
  IsName IsTargetLetter target ∧ ∃ r, line = target ++ ':' :: r

variable {identifier name : Text} {n : ℕ} {t : Text} {after texts : List Text}

/-- The rule that a line heads, if it is one for the target. -/
def ruleAt? (identifier target : Text) (n : ℕ) (t : Text) (after : List Text) : Option Rule :=
  (Rule.headed? identifier (Line.numberedFrom n (t :: after))).filter (·.target == target)

lemma ruleAt?_eq_some_iff {r : Rule} :
    ruleAt? identifier name n t after = some r ↔ IsName IsTargetLetter name ∧ ∃ prerequisites,
      t = name ++ ':' :: prerequisites ∧
      r = { target := name
            dependencies := dependencyNames prerequisites
            body := Line.leadingCommands (Line.numberedFrom (n + 1) after)
            identifier
            lineNumber := n } := by
  rw [ruleAt?, Option.filter_eq_some_iff, Line.numberedFrom_cons, Rule.headed?_eq_some_iff]
  simp only [LineKind.ofText_eq_ruleHeader_iff, beq_iff_eq]
  constructor
  · rintro ⟨⟨target, prerequisites, ⟨htarget, ht⟩, rfl⟩, rfl⟩
    exact ⟨htarget, prerequisites, ht, rfl⟩
  · rintro ⟨hname, prerequisites, ht, rfl⟩
    exact ⟨⟨name, prerequisites, ⟨hname, ht⟩, rfl⟩, rfl⟩

lemma isSome_ruleAt? (n : ℕ) (t : Text) (after : List Text) :
    (ruleAt? identifier name n t after).isSome = true ↔ IsHeaderOf name t := by
  simp only [Option.isSome_iff_exists, ruleAt?_eq_some_iff, IsHeaderOf]
  constructor
  · rintro ⟨r, hname, prerequisites, ht, -⟩
    exact ⟨hname, prerequisites, ht⟩
  · rintro ⟨hname, prerequisites, ht⟩
    exact ⟨_, hname, prerequisites, ht, rfl⟩

instance : DecidablePred (IsHeaderOf name) := fun t =>
  decidable_of_iff ((ruleAt? [] name 1 t []).isSome = true) (isSome_ruleAt? 1 t [])

/-! ## Lines that define a name -/

/-- **A line that defines a name**, with the kind of the variable and the text behind the sign. -/
inductive Defines (name : Text) : Text → VariableKind → Text → Prop where
  | directive (rest : Text) (h : IsName IsDirectiveLetter name) :
    Defines name ('.' :: (name ++ ':' :: rest)) .special rest
  | simple (rest : Text) (h : IsName IsLetter name) :
    Defines name (name ++ ' ' :: ':' :: '=' :: rest) .simple rest
  | expanded (space rest : Text) (h : IsName IsLetter name) (hspace : space = [] ∨ space = [' ']) :
    Defines name (name ++ (space ++ '=' :: rest)) .expanded rest

/-- A line that defines a name, whatever the kind. -/
def IsDefinitionOf (name line : Text) : Prop := ∃ kind rest, Defines name line kind rest

/-- The variable that a line defines, if it has the name. -/
def variableAt? (identifier name : Text) (n : ℕ) (t : Text) (_after : List Text) :
    Option Variable :=
  (Line.definition? identifier ⟨n, t⟩).filter (·.name == name)

lemma variableAt?_of_defines {kind : VariableKind} {rest : Text} (h : Defines name t kind rest) :
    variableAt? identifier name n t after = some
      { name, assignment := trim rest, kind, identifier, lineNumber := n } := by
  unfold variableAt? Line.definition?
  dsimp only
  cases h with
  | directive rest h =>
      rw [LineKind.ofText_eq_directive_iff.mpr ⟨h, rest, rfl, rfl⟩]
      simp
  | simple rest h =>
      rw [LineKind.ofText_eq_simple_iff.mpr ⟨h, rest, rfl, rfl⟩]
      simp
  | expanded space rest h hspace =>
      rw [LineKind.ofText_eq_expanded_iff.mpr ⟨h, space, rest, hspace, rfl, rfl⟩]
      simp

lemma variableAt?_eq_some_iff {v : Variable} :
    variableAt? identifier name n t after = some v ↔ ∃ kind rest, Defines name t kind rest ∧
      v = { name, assignment := trim rest, kind, identifier, lineNumber := n } := by
  constructor
  · intro hv
    have hdefined := hv
    rw [variableAt?, Option.filter_eq_some_iff, beq_iff_eq] at hv
    obtain ⟨hv, rfl⟩ := hv
    have hdefines : ∃ kind rest, Defines v.name t kind rest := by
      unfold Line.definition? at hv
      split at hv
      · next name rest hkind =>
        obtain ⟨hname, r, rfl, -⟩ := LineKind.ofText_eq_directive_iff.mp hkind
        cases hv
        exact ⟨_, r, .directive r hname⟩
      · next name value hkind =>
        obtain ⟨hname, r, rfl, -⟩ := LineKind.ofText_eq_simple_iff.mp hkind
        cases hv
        exact ⟨_, r, .simple r hname⟩
      · next name value hkind =>
        obtain ⟨hname, space, r, hspace, rfl, -⟩ := LineKind.ofText_eq_expanded_iff.mp hkind
        cases hv
        exact ⟨_, r, .expanded space r hname hspace⟩
      · cases hv
    obtain ⟨kind, rest, h⟩ := hdefines
    exact ⟨kind, rest, h, Option.some.inj (hdefined.symm.trans (variableAt?_of_defines h))⟩
  · rintro ⟨kind, rest, h, rfl⟩
    exact variableAt?_of_defines h

lemma isSome_variableAt? (n : ℕ) (t : Text) (after : List Text) :
    (variableAt? identifier name n t after).isSome = true ↔ IsDefinitionOf name t := by
  simp only [Option.isSome_iff_exists, variableAt?_eq_some_iff, IsDefinitionOf]
  constructor
  · rintro ⟨v, kind, rest, h, -⟩
    exact ⟨kind, rest, h⟩
  · rintro ⟨kind, rest, h⟩
    exact ⟨_, kind, rest, h, rfl⟩

instance : DecidablePred (IsDefinitionOf name) := fun t =>
  decidable_of_iff ((variableAt? [] name 1 t []).isSome = true) (isSome_variableAt? 1 t [])

/-- **A line that defines a name heads no rule**, and so `name:=value` defines nothing. -/
lemma IsDefinitionOf.not_isHeaderOf {line : Text} (h : IsDefinitionOf name line) (target : Text) :
    ¬ IsHeaderOf target line := by
  rintro ⟨htarget, r, hline⟩
  have hheader := LineKind.ofText_eq_ruleHeader_iff.mpr ⟨htarget, hline⟩
  obtain ⟨kind, rest, h⟩ := h
  cases h with
  | directive rest h =>
      cases hheader.symm.trans (LineKind.ofText_eq_directive_iff.mpr ⟨h, rest, rfl, rfl⟩)
  | simple rest h =>
      cases hheader.symm.trans (LineKind.ofText_eq_simple_iff.mpr ⟨h, rest, rfl, rfl⟩)
  | expanded space rest h hspace =>
      cases hheader.symm.trans
        (LineKind.ofText_eq_expanded_iff.mpr ⟨h, space, rest, hspace, rfl, rfl⟩)

/-! ## Look-ups -/

namespace Makefile

/-- Looking a rule up is asking the lines for it. -/
lemma ruleFor?_ofLines (identifier target : Text) (n : ℕ) (texts : List Text) :
    (ofLines identifier (Line.numberedFrom n texts)).ruleFor? target
      = firstAnswer? (ruleAt? identifier target) n texts := by
  induction texts generalizing n with
  | nil => rfl
  | cons t after ih =>
      rw [firstAnswer?, ← ih, ruleAt?, Line.numberedFrom_cons, ofLines_cons, ruleFor?, ruleFor?,
        List.find?_append]
      cases Rule.headed? identifier (⟨n, t⟩ :: Line.numberedFrom (n + 1) after) with
      | none => rfl
      | some r => simp [Option.filter_some, List.find?_singleton]

/-- Looking a variable up is asking the lines for it. -/
lemma variableNamed?_ofLines (identifier name : Text) (n : ℕ) (texts : List Text) :
    (ofLines identifier (Line.numberedFrom n texts)).variableNamed? name
      = firstAnswer? (variableAt? identifier name) n texts := by
  induction texts generalizing n with
  | nil => rfl
  | cons t after ih =>
      rw [firstAnswer?, ← ih, variableAt?, Line.numberedFrom_cons, ofLines_cons, variableNamed?,
        variableNamed?, List.find?_append]
      cases Line.definition? identifier ⟨n, t⟩ with
      | none => rfl
      | some v => simp [Option.filter_some, List.find?_singleton]

/-- **The rule that is found** is that of the earliest line which heads one for the target. -/
lemma ruleFor?_eq_some_iff {r : Rule} :
    (ofLines identifier (Line.numberedFrom 1 texts)).ruleFor? name = some r ↔
      ∃ before prerequisites after,
        Earliest (IsHeaderOf name) texts before (name ++ ':' :: prerequisites) after ∧
        r = { target := name
              dependencies := dependencyNames prerequisites
              body := Line.leadingCommands (Line.numberedFrom (before.length + 2) after)
              identifier
              lineNumber := before.length + 1 } := by
  rw [ruleFor?_ofLines, firstAnswer?_eq_some_iff isSome_ruleAt?]
  simp only [ruleAt?_eq_some_iff, Nat.add_comm 1]
  constructor
  · rintro ⟨before, line, after, hearliest, -, prerequisites, rfl, rfl⟩
    exact ⟨before, prerequisites, after, hearliest, rfl⟩
  · rintro ⟨before, prerequisites, after, hearliest, rfl⟩
    exact ⟨before, _, after, hearliest, hearliest.holds.1, prerequisites, rfl, rfl⟩

/-- **The variable that is found** is that of the earliest line which defines the name. -/
lemma variableNamed?_eq_some_iff {v : Variable} :
    (ofLines identifier (Line.numberedFrom 1 texts)).variableNamed? name = some v ↔
      ∃ before line after kind rest,
        Earliest (IsDefinitionOf name) texts before line after ∧ Defines name line kind rest ∧
        v = { name, assignment := trim rest, kind, identifier
              lineNumber := before.length + 1 } := by
  rw [variableNamed?_ofLines, firstAnswer?_eq_some_iff isSome_variableAt?]
  simp only [variableAt?_eq_some_iff, Nat.add_comm 1]
  constructor
  · rintro ⟨before, line, after, hearliest, kind, rest, hdefines, rfl⟩
    exact ⟨before, line, after, kind, rest, hearliest, hdefines, rfl⟩
  · rintro ⟨before, line, after, kind, rest, hearliest, hdefines, rfl⟩
    exact ⟨before, line, after, hearliest, kind, rest, hdefines, rfl⟩

lemma variableNamed?_eq_none_iff :
    (ofLines identifier (Line.numberedFrom 1 texts)).variableNamed? name = none ↔
      ∀ t ∈ texts, ¬ IsDefinitionOf name t := by
  rw [variableNamed?_ofLines, firstAnswer?_eq_none_iff isSome_variableAt?]

/-- There is no rule for what is no target, or starts no line with a colon behind it. -/
lemma ruleFor?_eq_none_iff :
    (ofLines identifier (Line.numberedFrom 1 texts)).ruleFor? name = none ↔
      name = [] ∨ (∃ c ∈ name, ¬ IsTargetLetter c) ∨
        ∀ t ∈ texts, ∀ r, t ≠ name ++ ':' :: r := by
  have hname : IsName IsTargetLetter name ↔ ¬ (name = [] ∨ ∃ c ∈ name, ¬ IsTargetLetter c) := by
    simp [IsName, not_or]
  rw [ruleFor?_ofLines, firstAnswer?_eq_none_iff isSome_ruleAt?, ← or_assoc]
  by_cases h : name = [] ∨ ∃ c ∈ name, ¬ IsTargetLetter c
  · exact iff_of_true (fun t _ hheader => hname.mp hheader.1 h) (Or.inl h)
  · simp only [h, false_or, IsHeaderOf, hname.mpr h, true_and, not_exists, ne_eq]

/-- **What look-ups by a name answer**, in terms of the lines that the makefile was read from. -/
structure AnswersFrom (identifier : Text) (texts : List Text) (name : Text) (m : Makefile) :
    Prop where
  /-- There is no rule if the name is no target, or if no line starts with it and a colon. -/
  no_rule : m.ruleFor? name = none ↔
    name = [] ∨ (∃ c ∈ name, ¬ IsTargetLetter c) ∨ ∀ t ∈ texts, ∀ r, t ≠ name ++ ':' :: r
  /-- Otherwise it is the rule that the earliest such line heads. -/
  some_rule : ∀ r, m.ruleFor? name = some r ↔ ∃ before prerequisites after,
    Earliest (IsHeaderOf name) texts before (name ++ ':' :: prerequisites) after ∧
    r = { target := name
          dependencies := dependencyNames prerequisites
          body := Line.leadingCommands (Line.numberedFrom (before.length + 2) after)
          identifier
          lineNumber := before.length + 1 }
  /-- There is no variable if no line defines the name. -/
  no_variable : m.variableNamed? name = none ↔ ∀ t ∈ texts, ¬ IsDefinitionOf name t
  /-- Otherwise it is the variable of the earliest line that does, whatever its kind. -/
  some_variable : ∀ v, m.variableNamed? name = some v ↔ ∃ before line after kind rest,
    Earliest (IsDefinitionOf name) texts before line after ∧ Defines name line kind rest ∧
    v = { name, assignment := trim rest, kind, identifier, lineNumber := before.length + 1 }
  /-- A line that heads a rule, such as `name:=value`, is not found as a variable. -/
  not_header : ∀ v, m.variableNamed? name = some v → ∃ line,
    texts[v.lineNumber - 1]? = some line ∧ IsDefinitionOf name line ∧
    ∀ target, ¬ IsHeaderOf target line
  /-- No line hides one above it: a plain variable is found rather than a directive below it. -/
  earlier : ∀ i line, texts[i]? = some line → IsDefinitionOf name line →
    ∃ v, m.variableNamed? name = some v ∧ v.lineNumber ≤ i + 1

/-- **Look-ups answer from the lines** of whatever stream the makefile was read from. -/
theorem lookups_answer_from_lines {events : List ReadEvent} {m : Makefile}
    (h : (parse identifier events).result = .ok m) (name : Text) :
    AnswersFrom identifier (ReadEvent.lines events) name m := by
  obtain ⟨-, rfl⟩ := parse_eq_ok_iff.mp h
  refine
    { no_rule := ruleFor?_eq_none_iff
      some_rule := fun r => ruleFor?_eq_some_iff
      no_variable := variableNamed?_eq_none_iff
      some_variable := fun v => variableNamed?_eq_some_iff
      not_header := fun v hv => ?_
      earlier := fun i line hline hdefines => ?_ }
  · obtain ⟨before, line, after, kind, rest, hearliest, -, rfl⟩ := variableNamed?_eq_some_iff.mp hv
    exact ⟨line, hearliest.getElem?, hearliest.holds, hearliest.holds.not_isHeaderOf⟩
  · cases hv : (ofLines identifier
        (Line.numberedFrom 1 (ReadEvent.lines events))).variableNamed? name with
    | none =>
        exact absurd hdefines (variableNamed?_eq_none_iff.mp hv line (List.mem_of_getElem? hline))
    | some v =>
        refine ⟨v, rfl, ?_⟩
        obtain ⟨before, line', after, kind, rest, hearliest, -, rfl⟩ :=
          variableNamed?_eq_some_iff.mp hv
        exact Nat.succ_le_succ (hearliest.length_le hline hdefines)

/-- A plain variable above a directive of its name, a rule header that looks like an assignment, and
a directive that is no rule. -/
theorem lookups_answer_from_five_lines :
    let content : Bytes := utf8 "CC = gcc\nPHONY = all\n.PHONY: clean\nLD:=ld\n\techo".toList
    ∃ m : Makefile, (parse [] [.bytes content]).result = .ok m ∧
      m.variableNamed? "PHONY".toList = some
        { name := "PHONY".toList, assignment := "all".toList, kind := .expanded, identifier := []
          lineNumber := 2 } ∧
      m.variableNamed? "LD".toList = none ∧
      m.ruleFor? "LD".toList = some
        { target := "LD".toList, dependencies := ["=ld".toList], body := ["echo".toList]
          identifier := [], lineNumber := 4 } ∧
      m.ruleFor? ".PHONY".toList = none := by
  intro content
  have hlines : ReadEvent.lines [.bytes content] = ["CC = gcc".toList, "PHONY = all".toList,
      ".PHONY: clean".toList, "LD:=ld".toList, "\techo".toList] := by
    rw [ReadEvent.lines_bytes]
    decide +kernel
  have hparse := parseBytes_result [] content
  have hanswers := lookups_answer_from_lines hparse
  rw [hlines] at hanswers
  refine ⟨_, hparse, ?_, ?_, ?_, ?_⟩
  · refine ((hanswers _).some_variable _).mpr ⟨["CC = gcc".toList], _, _, _, _,
      ⟨rfl, by decide +kernel, by decide +kernel⟩,
      .expanded [' '] " all".toList (by decide) (Or.inr rfl), by decide +kernel⟩
  · exact (hanswers _).no_variable.mpr (by decide +kernel)
  · refine ((hanswers _).some_rule _).mpr
      ⟨["CC = gcc".toList, "PHONY = all".toList, ".PHONY: clean".toList], "=ld".toList, _,
        ⟨rfl, by decide +kernel, by decide +kernel⟩, by decide +kernel⟩
  · exact (hanswers _).no_rule.mpr (Or.inr (Or.inl ⟨'.', by decide, by decide⟩))

end Makefile

end TargetPicker
