import Mathlib.Data.List.Nodup
import Mathlib.Tactic.Common
import TargetPicker.Proofs.Makefile.ReadFailure
import TargetPicker.Proofs.Makefile.WellFormed

/-!
# The lines that records use

A rule uses the line of its header and those of its recipe, and a variable uses the line that
defines it.  **No line is used twice** (`Makefile.UsesLinesOnce`), and the records of either kind
stand in the order of their lines.

One bound carries the argument (`bounds_of_mem_usedLines`): among lines from number `k` on, no
record uses one of the recipe lines that lead them.  So below a header every other record starts
behind the recipe of that header, and the induction over the lines goes through.
-/

namespace TargetPicker

/-! ## Used lines -/

/-- The lines of a rule, its header and its recipe. -/
def Rule.lines (r : Rule) : List ℕ := List.range' r.lineNumber (r.body.length + 1)

lemma Rule.mem_lines {r : Rule} {n : ℕ} :
    n ∈ r.lines ↔ r.lineNumber ≤ n ∧ n ≤ r.lineNumber + r.body.length := by
  rw [lines, List.mem_range'_1]
  omega

namespace Line

lemma lineNumber_of_definition? {identifier : Text} {l : Line} {v : Variable}
    (h : l.definition? identifier = some v) : v.lineNumber = l.number := by
  unfold definition? at h
  split at h <;> cases h <;> rfl

lemma length_leadingCommands_le (lines : List Line) :
    (leadingCommands lines).length ≤ lines.length :=
  (List.length_filterMap_le _ _).trans (List.takeWhile_sublist _).length_le

end Line

namespace Makefile

/-- **The lines that the records of a makefile use**, each as often as it is used. -/
def usedLines (m : Makefile) : List ℕ :=
  m.rules.flatMap Rule.lines ++ m.definitions.map Variable.lineNumber

lemma lineNumber_mem_of_rule {m : Makefile} {r : Rule} (h : r ∈ m.rules) :
    r.lineNumber ∈ m.usedLines :=
  List.mem_append_left _ (List.mem_flatMap.mpr ⟨r, h, Rule.mem_lines.mpr ⟨le_rfl, by omega⟩⟩)

lemma lineNumber_mem_of_definition {m : Makefile} {v : Variable} (h : v ∈ m.definitions) :
    v.lineNumber ∈ m.usedLines :=
  List.mem_append_right _ (List.mem_map_of_mem h)

variable (identifier : Text)

/-- The lines that the record of the first line uses. -/
def headLines (l : Line) (after : List Line) : List ℕ :=
  (Rule.headed? identifier (l :: after)).toList.flatMap Rule.lines ++
    (l.definition? identifier).toList.map Variable.lineNumber

/-- The first line adds the lines of its record. -/
lemma usedLines_ofLines_cons (l : Line) (after : List Line) :
    (ofLines identifier (l :: after)).usedLines.Perm
      (headLines identifier l after ++ (ofLines identifier after).usedLines) := by
  rw [ofLines_cons, List.perm_iff_count]
  intro n
  simp only [usedLines, headLines, List.flatMap_append, List.map_append, List.count_append]
  omega

/-- A record starts on its line, and what else it uses is the recipe that directly follows. -/
lemma bounds_of_mem_headLines {l : Line} {after : List Line} {n : ℕ}
    (h : n ∈ headLines identifier l after) :
    l.isRecipe = false ∧ l.number ≤ n ∧
      n ≤ l.number + (Line.leadingCommands after).length := by
  have hrecipe : l.isRecipe = false := by
    by_contra hne
    have hl : l.isRecipe = true := by simpa using hne
    rw [headLines, Rule.headed?_of_isRecipe identifier hl,
      Line.definition?_of_isRecipe identifier hl] at h
    cases h
  refine ⟨hrecipe, ?_⟩
  rcases List.mem_append.mp h with h | h
  · obtain ⟨r, hr, hn⟩ := List.mem_flatMap.mp h
    obtain ⟨target, prerequisites, -, rfl⟩ :=
      Rule.headed?_eq_some_iff.mp (Option.mem_toList.mp hr)
    exact Rule.mem_lines.mp hn
  · obtain ⟨v, hv, rfl⟩ := List.mem_map.mp h
    rw [Line.lineNumber_of_definition? (Option.mem_toList.mp hv)]
    omega

/-- A line gives one record at most. -/
lemma nodup_headLines (l : Line) (after : List Line) :
    (headLines identifier l after).Nodup := by
  unfold headLines Rule.headed? Line.definition?
  dsimp only
  cases LineKind.ofText l.text <;> simp [Rule.lines, List.nodup_range']

/-- **Used lines lie behind the recipe lines at the start.** -/
theorem bounds_of_mem_usedLines (texts : List Text) (k : ℕ) :
    ∀ n ∈ (ofLines identifier (Line.numberedFrom k texts)).usedLines,
      k + (Line.leadingCommands (Line.numberedFrom k texts)).length ≤ n ∧
        n < k + texts.length := by
  induction texts generalizing k with
  | nil =>
      intro n hn
      cases hn
  | cons t texts ih =>
      intro n hn
      have hrest := ih (k + 1) n
      have hlength := Line.length_leadingCommands_le (Line.numberedFrom (k + 1) texts)
      rw [Line.length_numberedFrom] at hlength
      rw [Line.numberedFrom_cons] at hn ⊢
      rw [(usedLines_ofLines_cons identifier _ _).mem_iff, List.mem_append] at hn
      rw [List.length_cons]
      cases hcommand : Line.command? ⟨k, t⟩ with
      | none =>
          rw [Line.leadingCommands_cons_of_not hcommand, List.length_nil]
          rcases hn with hn | hn
          · obtain ⟨-, hle, hge⟩ := bounds_of_mem_headLines identifier hn
            dsimp only at hle hge
            omega
          · have hbounds := hrest hn
            omega
      | some command =>
          rw [Line.leadingCommands_cons_of_command hcommand, List.length_cons]
          rcases hn with hn | hn
          · obtain ⟨hnot, -⟩ := bounds_of_mem_headLines identifier hn
            simp [Line.isRecipe, hcommand] at hnot
          · have hbounds := hrest hn
            omega

theorem nodup_usedLines (texts : List Text) (k : ℕ) :
    (ofLines identifier (Line.numberedFrom k texts)).usedLines.Nodup := by
  induction texts generalizing k with
  | nil => exact List.nodup_nil
  | cons t texts ih =>
      rw [Line.numberedFrom_cons, (usedLines_ofLines_cons identifier _ _).nodup_iff]
      refine List.nodup_append'.mpr ⟨nodup_headLines identifier _ _, ih (k + 1), ?_⟩
      intro n hhead hrest
      obtain ⟨-, -, hle⟩ := bounds_of_mem_headLines identifier hhead
      have hge := (bounds_of_mem_usedLines identifier texts (k + 1) n hrest).1
      dsimp only at hle
      omega

theorem pairwise_lineNumber_rules (texts : List Text) (k : ℕ) :
    (ofLines identifier (Line.numberedFrom k texts)).rules.Pairwise
      fun r r' => r.lineNumber < r'.lineNumber := by
  induction texts generalizing k with
  | nil => exact List.Pairwise.nil
  | cons t texts ih =>
      rw [Line.numberedFrom_cons, ofLines_cons]
      refine List.pairwise_append.mpr ⟨?_, ih (k + 1), ?_⟩
      · cases Rule.headed? identifier (⟨k, t⟩ :: Line.numberedFrom (k + 1) texts) <;> simp
      · intro r hr r' hr'
        obtain ⟨target, prerequisites, -, rfl⟩ :=
          Rule.headed?_eq_some_iff.mp (Option.mem_toList.mp hr)
        have hge := (bounds_of_mem_usedLines identifier texts (k + 1) _
          (lineNumber_mem_of_rule hr')).1
        dsimp only
        omega

theorem pairwise_lineNumber_definitions (texts : List Text) (k : ℕ) :
    (ofLines identifier (Line.numberedFrom k texts)).definitions.Pairwise
      fun v v' => v.lineNumber < v'.lineNumber := by
  induction texts generalizing k with
  | nil => exact List.Pairwise.nil
  | cons t texts ih =>
      rw [Line.numberedFrom_cons, ofLines_cons]
      refine List.pairwise_append.mpr ⟨?_, ih (k + 1), ?_⟩
      · cases Line.definition? identifier ⟨k, t⟩ <;> simp
      · intro v hv v' hv'
        rw [Line.lineNumber_of_definition? (Option.mem_toList.mp hv)]
        have hge := (bounds_of_mem_usedLines identifier texts (k + 1) _
          (lineNumber_mem_of_definition hv')).1
        dsimp only
        omega

/-! ## Every makefile -/

/-- **No line is used twice**, the used ones are among the first `count`, and the records of either
kind stand in the order of their lines. -/
structure UsesLinesOnce (count : ℕ) (m : Makefile) : Prop where
  rules : m.rules.Pairwise fun r r' => r.lineNumber < r'.lineNumber
  definitions : m.definitions.Pairwise fun v v' => v.lineNumber < v'.lineNumber
  nodup : m.usedLines.Nodup
  bounds : ∀ n ∈ m.usedLines, 1 ≤ n ∧ n ≤ count

theorem usesLinesOnce_ofLines (texts : List Text) :
    (ofLines identifier (Line.numberedFrom 1 texts)).UsesLinesOnce texts.length where
  rules := pairwise_lineNumber_rules identifier texts 1
  definitions := pairwise_lineNumber_definitions identifier texts 1
  nodup := nodup_usedLines identifier texts 1
  bounds := by
    intro n hn
    have hbounds := bounds_of_mem_usedLines identifier texts 1 n hn
    omega

variable {identifier}

open LineSource (linesOf)

/-- **What holds of every makefile that is read**: it has the name it was read under, its records
are well-formed and carry that name, no text in them goes over the end of a line, and of the lines
that were delivered none is used twice. -/
theorem representation_of_parse {events : List ReadEvent} {m : Makefile}
    (h : (parse identifier events).result = .ok m) :
    m.identifier = identifier ∧ m.WellFormed ∧ (∀ t ∈ m.texts, '\n' ∉ t) ∧
      (LineSource.ofEvents identifier events).items = (linesOf identifier events).map .ok ∧
      m.UsesLinesOnce (linesOf identifier events).length := by
  have hwell := wellFormed_of_parse h
  refine ⟨identifier_of_parse identifier h, hwell, hwell.newline_not_mem, ?_⟩
  rw [parse_result] at h
  cases hfailure : StreamPlace.lineStart.firstFailure? events with
  | some cause =>
      rw [hfailure] at h
      cases h
  | none =>
      rw [hfailure] at h
      obtain rfl := Except.ok.inj h
      obtain ⟨texts, htexts⟩ := LineSource.exists_linesOf_eq_numberedFrom identifier events
      refine ⟨LineSource.items_ofEvents hfailure, ?_⟩
      rw [htexts, Line.length_numberedFrom]
      exact usesLinesOnce_ofLines identifier texts

/-- A stray recipe line and a blank one between the records, and a recipe of two lines. -/
theorem representation_of_two_rules :
    ∃ m : Makefile, (parse [] [.bytes (Text.utf8
        "\t-\nall: lib\n\tcc\n\tld\n\nCC = cc\nlib:\n.PHONY: all".toList)]).result = .ok m ∧
      m.usedLines = [2, 3, 4, 7, 6, 8] ∧ m.UsesLinesOnce 8 := by
  have hparse := parseBytes_result [] (Text.utf8
    "\t-\nall: lib\n\tcc\n\tld\n\nCC = cc\nlib:\n.PHONY: all".toList)
  refine ⟨_, hparse, by decide +kernel, ?_⟩
  obtain ⟨-, -, -, hitems, hlines⟩ := representation_of_parse hparse
  have hcount := congrArg List.length hitems
  rw [LineSource.items_ofEvents_bytes, List.length_map, List.length_map,
    Line.length_numberedFrom] at hcount
  rw [← hcount] at hlines
  exact hlines

end Makefile

end TargetPicker
