import Mathlib.Tactic.Common
import TargetPicker.Proofs.Makefile.Joining
import TargetPicker.Proofs.Makefile.WellFormed

/-!
# Writing a makefile

Well-formed records can be written out and read back.  `Makefile.Entry` is a record of either kind,
`Entry.lines` says on which lines it is written, and `placed` says where each one of a list comes
to stand.

A written list is read entry by entry.  The parts of the argument are:

* every written line stands on a line as it is (`isLine_of_mem_lines`), so the lines of the text
  are the written lines;
* the lines of an entry by themselves make up that entry (`ofLines_lines`);
* no entry starts with a recipe line (`leadingCommands_lines`), so by the seam of
  `Makefile.rules_append` no recipe goes on into the next entry.
-/

namespace TargetPicker

open Text

attribute [ext] Makefile

/-! ## Texts that stand on a line -/

namespace Text

lemma isLine_nil : IsLine [] := ⟨List.not_mem_nil, by simp⟩

lemma IsLine.append {s t : Text} (hs : s.IsLine) (ht : t.IsLine) : (s ++ t).IsLine := by
  refine ⟨?_, fun h => ?_⟩
  · rw [List.mem_append]
    exact not_or.mpr ⟨hs.newline, ht.newline⟩
  · rw [List.getLast?_append, Option.or_eq_some_iff] at h
    rcases h with h | ⟨-, h⟩
    · exact ht.last h
    · exact hs.last h

lemma IsLine.cons {c : Char} {t : Text} (hnewline : c ≠ '\n') (hreturn : c ≠ '\r')
    (ht : t.IsLine) : IsLine (c :: t) := by
  refine IsLine.append (s := [c]) ⟨?_, ?_⟩ ht
  · simpa using hnewline.symm
  · simpa using hreturn

lemma isLine_flatMap {ts : List Text} {f : Text → Text} (h : ∀ t ∈ ts, (f t).IsLine) :
    IsLine (ts.flatMap f) := by
  induction ts with
  | nil => exact isLine_nil
  | cons t ts ih =>
      obtain ⟨ht, hts⟩ := List.forall_mem_cons.mp h
      exact ht.append (ih hts)

/-- A trimmed text does not end with a carriage return, which is a blank. -/
lemma isLine_of_trim_eq {t : Text} (htrim : trim t = t) (hnewline : '\n' ∉ t) : t.IsLine := by
  refine ⟨hnewline, fun hlast => ?_⟩
  have hblank := (trim_eq_self_iff.mp htrim).last '\r' hlast
  exact absurd hblank (by decide)

end Text

lemma IsName.isLine {p : Char → Prop} {name : Text} (h : IsName p name) (hnewline : ¬ p '\n')
    (hreturn : ¬ p '\r') : name.IsLine :=
  ⟨h.newline_not_mem hnewline, fun hlast => hreturn (h.2 _ (List.mem_of_getLast? hlast))⟩

lemma TrimmedPart.isLine {t : Text} (h : TrimmedPart t) : t.IsLine :=
  isLine_of_trim_eq h.trim_eq h.newline

/-! ## Writing -/

/-- The line that opens a rule. -/
def Rule.header (r : Rule) : Text := r.target ++ ':' :: r.dependencies.flatMap (' ' :: ·)

/-- The line that defines a variable. -/
def Variable.line (v : Variable) : Text :=
  match v.kind with
  | .special => '.' :: (v.name ++ ':' :: v.assignment)
  | .simple => v.name ++ ' ' :: ':' :: '=' :: v.assignment
  | .expanded => v.name ++ ' ' :: '=' :: v.assignment

namespace Makefile

/-- A record of either kind. -/
inductive Entry where
  | rule (r : Rule)
  | definition (v : Variable)
  deriving DecidableEq, Repr

namespace Entry

def rule? : Entry → Option Rule
  | rule r => some r
  | definition _ => none

def definition? : Entry → Option Variable
  | rule _ => none
  | definition v => some v

def WellFormed : Entry → Prop
  | rule r => r.WellFormed
  | definition v => v.WellFormed

instance : DecidablePred WellFormed
  | rule r => inferInstanceAs (Decidable r.WellFormed)
  | definition v => inferInstanceAs (Decidable v.WellFormed)

/-- The lines on which an entry is written. -/
def lines : Entry → List Text
  | rule r => r.header :: r.body.map ('\t' :: ·)
  | definition v => [v.line]

/-- The entry in a makefile of that name, written from line `n` on. -/
def placedAt (identifier : Text) (n : ℕ) : Entry → Entry
  | rule r => rule { r with identifier, lineNumber := n }
  | definition v => definition { v with identifier, lineNumber := n }

end Entry

/-- The makefile with these entries. -/
def ofEntries (identifier : Text) (entries : List Entry) : Makefile :=
  { identifier
    rules := entries.filterMap Entry.rule?
    definitions := entries.filterMap Entry.definition? }

/-- **The text of a list of entries.** -/
def written (entries : List Entry) : Text := unlines (entries.flatMap Entry.lines)

/-- The entries as they stand in their text, the first one on line `n`. -/
def placed (identifier : Text) : ℕ → List Entry → List Entry
  | _, [] => []
  | n, e :: entries => e.placedAt identifier n :: placed identifier (n + e.lines.length) entries

end Makefile

/-! ## Written lines stand on lines -/

lemma Rule.WellFormed.isLine_header {r : Rule} (h : r.WellFormed) : r.header.IsLine := by
  have htarget := h.target.isLine (by decide) (by decide)
  refine htarget.append (IsLine.cons (by decide) (by decide) (isLine_flatMap fun d hd => ?_))
  obtain ⟨hname, hnewline⟩ := h.dependencies d hd
  exact IsLine.cons (by decide) (by decide) (isLine_of_trim_eq hname.trim_eq hnewline)

lemma Variable.WellFormed.isLine_line {v : Variable} (h : v.WellFormed) : v.line.IsLine := by
  have hname : v.name.IsLine := by
    refine h.name.isLine ?_ ?_ <;> cases v.kind <;> decide
  have hvalue : v.assignment.IsLine := h.assignment.isLine
  unfold Variable.line
  split
  · exact .cons (by decide) (by decide) (hname.append (.cons (by decide) (by decide) hvalue))
  · exact hname.append (.cons (by decide) (by decide) (.cons (by decide) (by decide)
      (.cons (by decide) (by decide) hvalue)))
  · exact hname.append (.cons (by decide) (by decide) (.cons (by decide) (by decide) hvalue))

lemma Makefile.Entry.isLine_of_mem_lines {e : Entry} (h : e.WellFormed) {t : Text}
    (ht : t ∈ e.lines) : t.IsLine := by
  cases e with
  | rule r =>
      rcases List.mem_cons.mp ht with rfl | ht
      · exact Rule.WellFormed.isLine_header h
      · obtain ⟨command, hcommand, rfl⟩ := List.mem_map.mp ht
        exact IsLine.cons (by decide) (by decide) (h.body command hcommand).isLine
  | definition v =>
      rw [List.mem_singleton.mp ht]
      exact Variable.WellFormed.isLine_line h

/-! ## Entries read back -/

/-- A line of some form is no recipe line. -/
lemma Line.command?_of_ofText {l : Line} (h : LineKind.ofText l.text ≠ .unrecognized) :
    l.command? = none := by
  by_contra hcommand
  exact h (Line.ofText_of_isRecipe (Option.isSome_iff_ne_none.mpr hcommand))

/-- A trimmed command starts with no tab, so only the one in front of it is dropped. -/
lemma Line.command?_tab {command : Text} (h : trim command = command) (k : ℕ) :
    command? ⟨k, '\t' :: command⟩ = some command := by
  have hhead : ∀ c ∈ command.head?, (c == '\t') = false := by
    intro c hc
    have hblank := (trim_eq_self_iff.mp h).head c hc
    rw [beq_eq_false_iff_ne]
    rintro rfl
    exact absurd hblank (by decide)
  refine recipeCommand?_eq_some_iff.mpr ⟨command, rfl, ?_⟩
  rw [List.dropWhile_cons_of_pos (by decide), dropWhile_of_head hhead, h]

lemma Line.leadingCommands_tab {commands : List Text}
    (h : ∀ command ∈ commands, TrimmedPart command) (k : ℕ) :
    leadingCommands (numberedFrom k (commands.map ('\t' :: ·))) = commands := by
  induction commands generalizing k with
  | nil => rfl
  | cons command commands ih =>
      obtain ⟨hcommand, hcommands⟩ := List.forall_mem_cons.mp h
      rw [List.map_cons, numberedFrom_cons,
        leadingCommands_cons_of_command (command?_tab hcommand.trim_eq k), ih hcommands]

lemma Line.isRecipe_of_tab {commands : List Text} (h : ∀ command ∈ commands, TrimmedPart command)
    (k : ℕ) : ∀ l ∈ numberedFrom k (commands.map ('\t' :: ·)), l.isRecipe = true := by
  rw [← length_leadingCommands_eq_iff, leadingCommands_tab h]
  simp

lemma Rule.WellFormed.ofText_header {r : Rule} (h : r.WellFormed) :
    LineKind.ofText r.header = .ruleHeader r.target (r.dependencies.flatMap (' ' :: ·)) :=
  LineKind.ofText_eq_ruleHeader_iff.mpr ⟨h.target, rfl⟩

/-- The kind of the line on which a variable is written. -/
def Variable.lineKind (v : Variable) : LineKind :=
  match v.kind with
  | .special => .directive v.name v.assignment
  | .simple => .simple v.name v.assignment
  | .expanded => .expanded v.name v.assignment

lemma Variable.WellFormed.ofText_line {v : Variable} (h : v.WellFormed) :
    LineKind.ofText v.line = v.lineKind := by
  obtain ⟨name, assignment, kind, identifier, lineNumber⟩ := v
  obtain ⟨hname, hassignment⟩ := h
  have hvalue : assignment = trim assignment := hassignment.trim_eq.symm
  cases kind with
  | special => exact LineKind.ofText_eq_directive_iff.mpr ⟨hname, assignment, rfl, hvalue⟩
  | simple => exact LineKind.ofText_eq_simple_iff.mpr ⟨hname, assignment, rfl, hvalue⟩
  | expanded =>
      exact LineKind.ofText_eq_expanded_iff.mpr
        ⟨hname, [' '], assignment, Or.inr rfl, rfl, hvalue⟩

variable (identifier : Text)

lemma Rule.WellFormed.headed?_header {r : Rule} (h : r.WellFormed) (k : ℕ) :
    Rule.headed? identifier (⟨k, r.header⟩ :: Line.numberedFrom (k + 1) (r.body.map ('\t' :: ·)))
      = some { r with identifier, lineNumber := k } := by
  refine Rule.headed?_eq_some_iff.mpr ⟨_, _, h.ofText_header, ?_⟩
  rw [dependencyNames_spaced fun d hd => (h.dependencies d hd).1, Line.leadingCommands_tab h.body]

lemma Variable.WellFormed.definition?_line {v : Variable} (h : v.WellFormed) (k : ℕ) :
    Line.definition? identifier ⟨k, v.line⟩ = some { v with identifier, lineNumber := k } := by
  unfold Line.definition?
  rw [h.ofText_line]
  obtain ⟨name, assignment, kind, identifier, lineNumber⟩ := v
  cases kind <;> rfl

namespace Makefile

namespace Entry

/-- An entry starts with a line of some form. -/
lemma exists_first {e : Entry} (h : e.WellFormed) :
    ∃ first more, e.lines = first :: more ∧ LineKind.ofText first ≠ .unrecognized := by
  cases e with
  | rule r =>
      refine ⟨r.header, _, rfl, ?_⟩
      rw [Rule.WellFormed.ofText_header h]
      exact LineKind.noConfusion
  | definition v =>
      refine ⟨v.line, [], rfl, ?_⟩
      rw [Variable.WellFormed.ofText_line h]
      unfold Variable.lineKind
      cases v.kind <;> exact LineKind.noConfusion

/-- **The lines of an entry** by themselves make up that entry. -/
theorem ofLines_lines {e : Entry} (h : e.WellFormed) (k : ℕ) :
    ofLines identifier (Line.numberedFrom k e.lines)
      = ofEntries identifier [e.placedAt identifier k] := by
  cases e with
  | rule r =>
      have hdefinition : Line.definition? identifier ⟨k, r.header⟩ = none := by
        rw [Line.definition?, Rule.WellFormed.ofText_header h]
      have hbody := Line.isRecipe_of_tab (Rule.WellFormed.body h) (k + 1)
      rw [lines, Line.numberedFrom_cons, ofLines_cons, Rule.WellFormed.headed?_header identifier h,
        hdefinition, ofLines_of_isRecipe identifier hbody]
      rfl
  | definition v =>
      have hrule : Rule.headed? identifier [⟨k, v.line⟩] = none := by
        rw [Rule.headed?_cons, Variable.WellFormed.ofText_line h]
        unfold Variable.lineKind
        cases v.kind <;> rfl
      rw [lines, Line.numberedFrom_cons, Line.numberedFrom_nil, ofLines_cons, hrule,
        Variable.WellFormed.definition?_line identifier h]
      rfl

end Entry

variable {entries : List Entry}

/-- No list of entries starts with a recipe line. -/
lemma leadingCommands_lines (h : ∀ e ∈ entries, e.WellFormed) (k : ℕ) :
    Line.leadingCommands (Line.numberedFrom k (entries.flatMap Entry.lines)) = [] := by
  cases entries with
  | nil => rfl
  | cons e entries =>
      obtain ⟨first, more, hlines, hfirst⟩ := Entry.exists_first (h e List.mem_cons_self)
      rw [List.flatMap_cons, hlines, List.cons_append, Line.numberedFrom_cons]
      exact Line.leadingCommands_cons_of_not (Line.command?_of_ofText hfirst) _

/-- **The lines of a list of entries** make up these entries. -/
theorem ofLines_written (h : ∀ e ∈ entries, e.WellFormed) (k : ℕ) :
    ofLines identifier (Line.numberedFrom (k + 1) (entries.flatMap Entry.lines))
      = ofEntries identifier (placed identifier (k + 1) entries) := by
  induction entries generalizing k with
  | nil => rfl
  | cons e entries ih =>
      obtain ⟨he, hentries⟩ := List.forall_mem_cons.mp h
      have hrest := ih hentries (k + e.lines.length)
      rw [Nat.add_right_comm] at hrest
      have hrules := rules_append_of_leadingCommands identifier e.lines k
        (leadingCommands_lines hentries (k + 1 + e.lines.length))
      have hdefinitions := definitions_append identifier (Line.numberedFrom (k + 1) e.lines)
        (Line.numberedFrom (k + 1 + e.lines.length) (entries.flatMap Entry.lines))
      rw [Entry.ofLines_lines identifier he, hrest] at hrules hdefinitions
      rw [List.flatMap_cons, Line.numberedFrom_append]
      refine Makefile.ext rfl (hrules.trans ?_) (hdefinitions.trans ?_)
      · exact List.filterMap_append.symm
      · exact List.filterMap_append.symm

end Makefile

/-! ## The round trip -/

def Rule.withoutLineNumber (r : Rule) : Rule := { r with lineNumber := 0 }

def Variable.withoutLineNumber (v : Variable) : Variable := { v with lineNumber := 0 }

namespace Makefile

/-- All that a makefile says but where it says it. -/
def withoutLineNumbers (m : Makefile) : Makefile :=
  { m with
    rules := m.rules.map Rule.withoutLineNumber
    definitions := m.definitions.map Variable.withoutLineNumber }

variable {entries : List Entry}

/-- **Written entries are read back**, each on the line where it was written. -/
theorem parseBytes_written (h : ∀ e ∈ entries, e.WellFormed) :
    (parseBytes identifier (written entries).utf8).result
      = .ok (ofEntries identifier (placed identifier 1 entries)) := by
  have hlines : Bytes.lines (written entries).utf8 = entries.flatMap Entry.lines := by
    refine Bytes.lines_unlines fun t ht => ?_
    obtain ⟨e, he, ht⟩ := List.mem_flatMap.mp ht
    exact Entry.isLine_of_mem_lines (h e he) ht
  rw [parseBytes_result, hlines]
  exact congrArg Except.ok (ofLines_written identifier h 0)

/-- Where entries are placed changes their line numbers only. -/
lemma rules_placed (n : ℕ) (h : ∀ r ∈ entries.filterMap Entry.rule?, r.identifier = identifier) :
    ((placed identifier n entries).filterMap Entry.rule?).map Rule.withoutLineNumber
      = (entries.filterMap Entry.rule?).map Rule.withoutLineNumber := by
  induction entries generalizing n with
  | nil => rfl
  | cons e entries ih =>
      cases e with
      | rule r =>
          obtain ⟨rfl, hentries⟩ := List.forall_mem_cons.mp h
          exact congrArg (r.withoutLineNumber :: ·) (ih _ hentries)
      | definition v => exact ih _ h

lemma definitions_placed (n : ℕ)
    (h : ∀ v ∈ entries.filterMap Entry.definition?, v.identifier = identifier) :
    ((placed identifier n entries).filterMap Entry.definition?).map Variable.withoutLineNumber
      = (entries.filterMap Entry.definition?).map Variable.withoutLineNumber := by
  induction entries generalizing n with
  | nil => rfl
  | cons e entries ih =>
      cases e with
      | rule r => exact ih _ h
      | definition v =>
          obtain ⟨rfl, hentries⟩ := List.forall_mem_cons.mp h
          exact congrArg (v.withoutLineNumber :: ·) (ih _ hentries)

/-- Every makefile is a list of entries, its rules in front for example. -/
lemma exists_entries (m : Makefile) : ∃ entries, m = ofEntries m.identifier entries := by
  refine ⟨m.rules.map .rule ++ m.definitions.map .definition, ?_⟩
  simp [ofEntries, List.filterMap_map, Function.comp_def, Entry.rule?, Entry.definition?]

/-- **The round trip.**  Well-formed entries that are written out are read back, each on the line
where it stands in the text.  What any reading gives is such a list of entries, and in whatever
order its rules and its variables are merged, writing it out and reading it again changes nothing
but line numbers. -/
theorem round_trip :
    (∀ entries : List Entry, (∀ e ∈ entries, e.WellFormed) →
      (parseBytes identifier (written entries).utf8).result
        = .ok (ofEntries identifier (placed identifier 1 entries))) ∧
    (∀ (events : List ReadEvent) (m : Makefile), (parse identifier events).result = .ok m →
      m.WellFormed ∧ (∃ entries, m = ofEntries identifier entries) ∧
      ∀ entries : List Entry, m = ofEntries identifier entries →
        ∃ again : Makefile, (parseBytes identifier (written entries).utf8).result = .ok again ∧
          again.withoutLineNumbers = m.withoutLineNumbers) := by
  refine ⟨fun entries h => parseBytes_written identifier h, fun events m hm => ?_⟩
  have hwell := wellFormed_of_parse hm
  have hidentifier := identifier_of_parse identifier hm
  refine ⟨hwell, ?_, ?_⟩
  · rw [← hidentifier]
    exact exists_entries m
  · rintro entries rfl
    have hentries : ∀ e ∈ entries, e.WellFormed := by
      intro e he
      cases e with
      | rule r => exact (hwell.rules r (List.mem_filterMap.mpr ⟨_, he, rfl⟩)).1
      | definition v => exact (hwell.definitions v (List.mem_filterMap.mpr ⟨_, he, rfl⟩)).1
    refine ⟨_, parseBytes_written identifier hentries, Makefile.ext rfl ?_ ?_⟩
    · exact rules_placed identifier 1 fun r hr => (hwell.rules r hr).2
    · exact definitions_placed identifier 1 fun v hv => (hwell.definitions v hv).2

/-- A rule between two definitions, with an empty command in its recipe. -/
theorem round_trip_of_three_entries :
    (parseBytes "Makefile".toList (written
      [.definition ⟨"CC".toList, "cc".toList, .simple, [], 0⟩,
       .rule ⟨"all".toList, ["main.o".toList], [[], "cc -o all".toList], [], 0⟩,
       .definition ⟨"PHONY".toList, "all".toList, .special, [], 0⟩]).utf8).result
      = .ok
        { identifier := "Makefile".toList
          rules :=
            [⟨"all".toList, ["main.o".toList], [[], "cc -o all".toList], "Makefile".toList, 2⟩]
          definitions :=
            [⟨"CC".toList, "cc".toList, .simple, "Makefile".toList, 1⟩,
             ⟨"PHONY".toList, "all".toList, .special, "Makefile".toList, 5⟩] } :=
  (round_trip "Makefile".toList).1 _ (by decide +kernel)

end Makefile

end TargetPicker
