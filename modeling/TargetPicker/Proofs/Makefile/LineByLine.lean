import Mathlib.Data.List.Infix
import Mathlib.Tactic.Common
import TargetPicker.Makefile.Reading
import TargetPicker.Proofs.Input.ContentLines
import TargetPicker.Proofs.Makefile.Grammar

/-!
# A makefile, line by line

Reading is a fold with a rule that may be open.  This file says what comes out of it without the
fold: `Makefile.ofLines` looks at every line by itself, and at the lines that follow it for the
recipe only.

The bridge is `transcript`, the list of all findings by recursion on the lines.

* `findings_eq_transcript` — the fold gives the transcript.  The induction has to start in any
  state, so it carries the open rule along: whatever lines are still to come, that rule will be
  closed with the recipe that leads them (`OpenRule.closeOver`).
* `rules_transcript` and `definitions_transcript` — the two views of a transcript are the two
  fields of `Makefile.ofLines`.  What makes this independent of the open rule is that a recipe line
  is of no form (`ofText_of_isRecipe`): the lines that a recipe swallows would have given nothing.
-/

namespace TargetPicker

/-! ## The reading of single lines -/

namespace Line

/-- The command of a recipe line. -/
def command? (l : Line) : Option Text := recipeCommand? l.text

def isRecipe (l : Line) : Bool := l.command?.isSome

/-- The commands of the maximal run of recipe lines at the start. -/
def leadingCommands (lines : List Line) : List Text :=
  (lines.takeWhile Line.isRecipe).filterMap Line.command?

/-- The variable that a line defines. -/
def definition? (identifier : Text) (l : Line) : Option Variable :=
  match LineKind.ofText l.text with
  | .directive name rest =>
    some { name, assignment := rest, kind := .special, identifier, lineNumber := l.number }
  | .simple name value =>
    some { name, assignment := value, kind := .simple, identifier, lineNumber := l.number }
  | .expanded name value =>
    some { name, assignment := value, kind := .expanded, identifier, lineNumber := l.number }
  | _ => none

end Line

/-- The rule whose header is the first of the lines; its recipe is what directly follows. -/
def Rule.headed? (identifier : Text) : List Line → Option Rule
  | [] => none
  | l :: after =>
    match LineKind.ofText l.text with
    | .ruleHeader target prerequisites => some
      { target
        dependencies := dependencyNames prerequisites
        body := Line.leadingCommands after
        identifier
        lineNumber := l.number }
    | _ => none

/-- **The makefile that lines make up.** -/
def Makefile.ofLines (identifier : Text) (lines : List Line) : Makefile :=
  { identifier
    rules := lines.tails.filterMap (Rule.headed? identifier)
    definitions := lines.filterMap (Line.definition? identifier) }

lemma Rule.headed?_eq_some_iff {identifier : Text} {l : Line} {after : List Line} {r : Rule} :
    Rule.headed? identifier (l :: after) = some r ↔ ∃ target prerequisites,
      LineKind.ofText l.text = .ruleHeader target prerequisites ∧
      r = { target
            dependencies := dependencyNames prerequisites
            body := Line.leadingCommands after
            identifier
            lineNumber := l.number } := by
  unfold headed?
  dsimp only
  cases LineKind.ofText l.text <;> simp [eq_comm]

lemma Rule.headed?_eq_none_iff {identifier : Text} {l : Line} {after : List Line} :
    Rule.headed? identifier (l :: after) = none ↔ ∀ target prerequisites,
      LineKind.ofText l.text ≠ .ruleHeader target prerequisites := by
  unfold headed?
  dsimp only
  cases LineKind.ofText l.text <;> simp

namespace Line

lemma leadingCommands_cons_of_command {l : Line} {command : Text}
    (h : l.command? = some command) (after : List Line) :
    leadingCommands (l :: after) = command :: leadingCommands after := by
  simp [leadingCommands, isRecipe, h]

lemma leadingCommands_cons_of_not {l : Line} (h : l.command? = none) (after : List Line) :
    leadingCommands (l :: after) = [] := by
  simp [leadingCommands, isRecipe, h]

end Line

/-! ## Recipe lines are of no form -/

lemma recipeCommand?_eq_some_iff {line command : Text} :
    recipeCommand? line = some command ↔
      ∃ rest, line = '\t' :: rest ∧ command = Text.trim (line.dropWhile (· == '\t')) := by
  unfold recipeCommand?
  split
  · next rest =>
    constructor
    · intro h
      exact ⟨rest, rfl, (Option.some.inj h).symm⟩
    · rintro ⟨_, -, rfl⟩
      rfl
  · next h =>
    constructor
    · intro h'
      cases h'
    · rintro ⟨rest, rfl, -⟩
      exact absurd rfl (h rest)

/-- No form of a line starts with a tab. -/
theorem LineKind.ofText_tab (rest : Text) : LineKind.ofText ('\t' :: rest) = .unrecognized := by
  rw [LineKind.ofText_eq_unrecognized_iff]
  rintro ⟨f, hf⟩
  have hhead : f.text.head? = some '\t' := by rw [hf]; rfl
  cases f with
  | comment rest => simp [LineForm.text] at hf
  | directive name rest h => simp [LineForm.text] at hf
  | ruleHeader target prerequisites h => exact absurd (h.of_head? hhead) (by decide)
  | simple name value h => exact absurd (h.of_head? hhead) (by decide)
  | expanded name spaced value h => exact absurd (h.of_head? hhead) (by decide)

lemma Line.ofText_of_isRecipe {l : Line} (h : l.isRecipe = true) :
    LineKind.ofText l.text = .unrecognized := by
  obtain ⟨command, hcommand⟩ := Option.isSome_iff_exists.mp h
  obtain ⟨rest, htext, -⟩ := recipeCommand?_eq_some_iff.mp hcommand
  rw [htext, LineKind.ofText_tab]

/-- A recipe line defines nothing. -/
lemma Line.definition?_of_isRecipe (identifier : Text) {l : Line} (h : l.isRecipe = true) :
    l.definition? identifier = none := by
  rw [Line.definition?, Line.ofText_of_isRecipe h]

/-- A recipe line heads no rule. -/
lemma Rule.headed?_of_isRecipe (identifier : Text) {l : Line} (h : l.isRecipe = true)
    (after : List Line) : Rule.headed? identifier (l :: after) = none := by
  rw [Rule.headed?, Line.ofText_of_isRecipe h]

/-! ## The fold and its transcript -/

/-- All findings of some lines; the flag says whether a rule is open before the first of them. -/
def transcript (identifier : Text) : Bool → List Line → List Finding
  | _, [] => []
  | isOpen, l :: after =>
    if isOpen && l.isRecipe then transcript identifier true after
    else .line l.number (LineKind.ofText l.text) ::
      ((Rule.headed? identifier (l :: after)).toList.map .rule ++
        transcript identifier (Rule.headed? identifier (l :: after)).isSome after)

/-- Where no rule is open every line is recognised. -/
lemma transcript_cons (identifier : Text) (l : Line) (after : List Line) :
    transcript identifier false (l :: after)
      = .line l.number (LineKind.ofText l.text) ::
        ((Rule.headed? identifier (l :: after)).toList.map .rule ++
          transcript identifier (Rule.headed? identifier (l :: after)).isSome after) := by
  rw [transcript, if_neg (by simp)]

/-- The recipe lines that lead the lines behind a header leave no finding. -/
lemma transcript_open (identifier : Text) (lines : List Line) :
    transcript identifier true lines
      = transcript identifier false (lines.dropWhile Line.isRecipe) := by
  induction lines with
  | nil => rfl
  | cons l after ih =>
      cases h : l.isRecipe with
      | true => rw [transcript, if_pos (by simp [h]), List.dropWhile_cons_of_pos h, ih]
      | false =>
          rw [List.dropWhile_cons_of_neg (by simp [h]), transcript_cons, transcript,
            if_neg (by simp [h])]

/-- What an open rule becomes if these lines are still to come. -/
def OpenRule.closeOver (identifier : Text) (after : List Line) (r : OpenRule) : Rule :=
  { r.close identifier with body := r.commands.reverse ++ Line.leadingCommands after }

lemma Rule.headed?_cons (identifier : Text) (l : Line) (after : List Line) :
    Rule.headed? identifier (l :: after)
      = (OpenRule.ofKind? l.number (LineKind.ofText l.text)).map
          (·.closeOver identifier after) := by
  simp only [Rule.headed?, OpenRule.ofKind?]
  cases LineKind.ofText l.text <;> rfl

lemma OpenRule.closeOver_of_not (identifier : Text) {l : Line} (h : l.command? = none)
    (after : List Line) (r : OpenRule) :
    r.closeOver identifier (l :: after) = r.close identifier := by
  simp [closeOver, Line.leadingCommands_cons_of_not h, close]

namespace Recognizer

variable (identifier : Text)

/-- Closing adds the open rule to the findings. -/
lemma findings_close (s : Recognizer) :
    (s.close identifier).findings.toList
      = s.findings.toList ++ s.openRule.toList.map fun r => .rule (r.close identifier) := by
  unfold close
  cases h : s.openRule <;> simp

/-- A line that is recognised, whether it closes a rule or not. -/
lemma step_of_not {s : Recognizer} {l : Line} (h : s.openRule = none ∨ l.command? = none) :
    s.step identifier l = s.recognize identifier l := by
  unfold step
  rcases h with h | h
  · rw [h]
  · rw [show recipeCommand? l.text = none from h]
    cases s.openRule <;> rfl

/-- **What the fold adds**, from any state. -/
theorem findings_foldl (lines : List Line) (s : Recognizer) :
    ((lines.foldl (step identifier) s).close identifier).findings.toList
      = s.findings.toList ++
        (s.openRule.toList.map fun r => .rule (r.closeOver identifier lines)) ++
        transcript identifier s.openRule.isSome lines := by
  induction lines generalizing s with
  | nil =>
      rw [List.foldl_nil, findings_close]
      simp [transcript, OpenRule.closeOver, Line.leadingCommands, OpenRule.close]
  | cons l after ih =>
      rw [List.foldl_cons, ih]
      by_cases hextends : s.openRule = none ∨ l.command? = none
      · have hpending : (s.openRule.toList.map fun r => Finding.rule (r.close identifier))
            = s.openRule.toList.map fun r => .rule (r.closeOver identifier (l :: after)) := by
          rcases hextends with h | h
          · rw [h]
            rfl
          · simp only [OpenRule.closeOver_of_not identifier h]
        have hflag : (s.openRule.isSome && l.isRecipe) = false := by
          rcases hextends with h | h
          · simp [h]
          · simp [Line.isRecipe, h]
        rw [step_of_not identifier hextends, transcript, hflag, Rule.headed?_cons]
        simp only [recognize, Array.toList_push, findings_close, hpending, Option.isSome_map,
          List.append_assoc, Bool.false_eq_true, if_false]
        cases OpenRule.ofKind? l.number (LineKind.ofText l.text) <;> rfl
      · obtain ⟨hopen, hcommand⟩ := not_or.mp hextends
        obtain ⟨r, hr⟩ := Option.ne_none_iff_exists'.mp hopen
        obtain ⟨command, hc⟩ := Option.ne_none_iff_exists'.mp hcommand
        have hstep : s.step identifier l
            = { s with openRule := some { r with commands := command :: r.commands } } := by
          rw [step, hr, show recipeCommand? l.text = some command from hc]
        have hclose : OpenRule.closeOver identifier after
            { r with commands := command :: r.commands }
              = r.closeOver identifier (l :: after) := by
          simp [OpenRule.closeOver, Line.leadingCommands_cons_of_command hc, OpenRule.close]
        have hflag : (s.openRule.isSome && l.isRecipe) = true := by
          simp [hr, Line.isRecipe, hc]
        rw [hstep, transcript, if_pos hflag, hr]
        simp [hclose]

end Recognizer

/-- **The findings of a makefile** are the transcript of its lines. -/
theorem findings_eq_transcript (identifier : Text) (lines : List Line) :
    findings identifier lines = transcript identifier false lines := by
  rw [findings, Recognizer.findings_foldl]
  rfl

/-! ## The two views -/

variable (identifier : Text)

theorem rules_transcript (isOpen : Bool) (lines : List Line) :
    (transcript identifier isOpen lines).filterMap Finding.rule?
      = lines.tails.filterMap (Rule.headed? identifier) := by
  induction lines generalizing isOpen with
  | nil => rfl
  | cons l after ih =>
      rw [transcript, List.tails_cons]
      split
      · next h =>
        have hrecipe := (Bool.and_eq_true_iff.mp h).2
        rw [ih, List.filterMap_cons_none (Rule.headed?_of_isRecipe identifier hrecipe after)]
      · rw [List.filterMap_cons_none rfl, List.filterMap_append, ih]
        cases h : Rule.headed? identifier (l :: after) with
        | none => rw [List.filterMap_cons_none h]; rfl
        | some r => rw [List.filterMap_cons_some h]; rfl

lemma definition?_line (l : Line) :
    Finding.definition? identifier (.line l.number (LineKind.ofText l.text))
      = l.definition? identifier := by
  unfold Finding.definition? Line.definition?
  cases LineKind.ofText l.text <;> rfl

theorem definitions_transcript (isOpen : Bool) (lines : List Line) :
    (transcript identifier isOpen lines).filterMap (Finding.definition? identifier)
      = lines.filterMap (Line.definition? identifier) := by
  induction lines generalizing isOpen with
  | nil => rfl
  | cons l after ih =>
      rw [transcript]
      split
      · next h =>
        have hrecipe := (Bool.and_eq_true_iff.mp h).2
        rw [ih, List.filterMap_cons_none (Line.definition?_of_isRecipe identifier hrecipe)]
      · rw [List.filterMap_cons, definition?_line, List.filterMap_cons, List.filterMap_append, ih]
        cases Rule.headed? identifier (l :: after) <;> rfl

/-- What the findings add up to, line by line. -/
theorem Makefile.ofFindings_findings (lines : List Line) :
    Makefile.ofFindings identifier (findings identifier lines)
      = Makefile.ofLines identifier lines := by
  rw [Makefile.ofFindings, findings_eq_transcript, rules_transcript, definitions_transcript]
  rfl

/-! ## Reading -/

/-- A source that fails gives no makefile, and any other the makefile of its lines. -/
theorem LineSource.parse_result (s : LineSource) :
    s.parse.result = match s.untilFailure.2 with
      | some e => .error e
      | none => .ok (Makefile.ofLines s.identifier s.untilFailure.1) := by
  unfold LineSource.parse
  rcases s.untilFailure with ⟨lines, _ | e⟩
  · simp only [Makefile.ofFindings_findings]
  · rfl

/-- A makefile depends on its source by the name and by what the source delivers. -/
theorem LineSource.parse_congr {s t : LineSource} (hidentifier : s.identifier = t.identifier)
    (hitems : s.items = t.items) : s.parse = t.parse := by
  have hlines : s.untilFailure = t.untilFailure := by
    rw [untilFailure, untilFailure, hitems]
  rw [parse, parse, hidentifier, hlines]

namespace Makefile

/-- A content can always be read, and its lines make up the makefile. -/
theorem parseBytes_result (content : Bytes) :
    (parseBytes identifier content).result
      = .ok (ofLines identifier (Line.numberedFrom 1 (Bytes.lines content))) := by
  have hitems := LineSource.items_ofEvents_bytes identifier content
  rw [parseBytes, parse, LineSource.parse_result, LineSource.untilFailure_of_items hitems]
  rfl

end Makefile

end TargetPicker
