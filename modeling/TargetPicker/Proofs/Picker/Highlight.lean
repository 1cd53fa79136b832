import Mathlib.Data.List.GetD
import Mathlib.Tactic.Common
import TargetPicker.Picker.View
import TargetPicker.Proofs.Picker.Selection

/-!
# What is highlighted is what runs

The view marks the selected target twice: with `>` in front, and by underlining it.  A target may
have any name and a process may print anything, so the marker says little; the underline is what
can be relied on.

**Regions of the view.**  Every row stands above the targets, is the row of one target, or shows
output (`Picker.getElem?_view`).  Only the rows of targets are ever underlined, and of these the
selected one only.

**Highlight and run.**  Throughout a session exactly one row is underlined, and in the modes in
which the enter key runs something, it runs the underlined text (`Session.highlighted_is_run`).
-/

namespace TargetPicker

/-- Holds of a line with an underlined span. -/
def Highlighted (line : List Span) : Prop := ∃ span ∈ line, span.style = .underlined

instance : DecidablePred Highlighted := fun line =>
  inferInstanceAs (Decidable (∃ span ∈ line, span.style = .underlined))

/-- The key that runs the selected target, whatever is held down with it. -/
def Key.enter (held : Modifiers) : Key := { code := .enter, modifiers := held }

namespace Picker

variable {p : Picker} {i : ℕ} {line : List Span}

/-! ## Regions of the view -/

/-- The lines above the targets. -/
def header (p : Picker) : List (List Span) := helpLines ++ p.searchLines ++ [titleLine]

/-- The row of a target.  A search text pushes all of them down by two. -/
def row (p : Picker) (index : ℕ) : ℕ := (if p.mode.isSearch then 6 else 4) + index

lemma length_header (p : Picker) : p.header.length = p.row 0 := by
  rw [header, searchLines, row]
  split <;> rfl

lemma row_eq (p : Picker) (index : ℕ) : p.row index = p.header.length + index := by
  rw [length_header, row, row, Nat.add_zero]

lemma view_eq (p : Picker) : p.view = p.header ++ (p.choiceLines ++ p.outputLines) :=
  List.append_assoc ..

lemma length_choiceLines (p : Picker) : p.choiceLines.length = p.choices.length := by
  rw [choiceLines, List.length_map, List.length_zipIdx]

lemma getElem?_choiceLines (p : Picker) (index : ℕ) :
    p.choiceLines[index]?
      = p.choices[index]?.map fun target => choiceLine target (index == p.selected) := by
  rw [choiceLines, List.getElem?_map, List.getElem?_zipIdx, Option.map_map, Nat.zero_add]
  rfl

/-- Each target is shown in its row. -/
lemma getElem?_view_row {index : ℕ} {target : Text} (h : p.choices[index]? = some target) :
    p.view[p.row index]? = some (choiceLine target (index == p.selected)) := by
  have hlt : index < p.choiceLines.length := by
    rw [length_choiceLines]
    exact (List.getElem?_eq_some_iff.mp h).1
  rw [view_eq, row_eq, List.getElem?_append_right (Nat.le_add_right _ _), Nat.add_sub_cancel_left,
    List.getElem?_append_left hlt, getElem?_choiceLines, h, Option.map_some]

/-- **Every row** stands above the targets, shows one of them, or shows output. -/
theorem getElem?_view (h : p.view[i]? = some line) :
    line ∈ p.header ∨
      (∃ index target, i = p.row index ∧ line = choiceLine target (index == p.selected)) ∨
      line ∈ p.outputLines := by
  rw [view_eq, List.getElem?_append] at h
  split at h
  · exact Or.inl (List.mem_of_getElem? h)
  · rw [List.getElem?_append] at h
    split at h
    · rw [getElem?_choiceLines, Option.map_eq_some_iff] at h
      obtain ⟨target, -, rfl⟩ := h
      refine Or.inr (Or.inl ⟨i - p.header.length, target, ?_, rfl⟩)
      rw [row_eq]
      omega
    · exact Or.inr (Or.inr (List.mem_of_getElem? h))

/-! ## Underlined spans -/

/-- Nothing above the targets is underlined, whatever is searched for. -/
lemma not_highlighted_of_mem_header (h : line ∈ p.header) : ¬ Highlighted line := by
  have hfixed : ∀ line ∈ helpLines ++ [titleLine], ¬ Highlighted line := by decide
  rw [header, List.append_assoc, List.mem_append, List.mem_append] at h
  rcases h with hhelp | hsearch | htitle
  · exact hfixed line (List.mem_append_left _ hhelp)
  · rw [searchLines] at hsearch
    split at hsearch
    · simp only [List.mem_cons, List.not_mem_nil, or_false] at hsearch
      rcases hsearch with rfl | rfl <;> simp [Highlighted]
    · exact absurd hsearch List.not_mem_nil
  · exact hfixed line (List.mem_append_right _ htitle)

/-- **Output is shown as it is**, in no style of its own. -/
lemma style_of_mem_outputLines (h : line ∈ p.outputLines) : ∀ span ∈ line, span.style = .plain := by
  have houtput (printed : Text) : ∀ span ∈ outputLine printed, span.style = .plain := by
    rw [outputLine]
    split <;> simp
  rw [outputLines] at h
  split at h
  · exact absurd h List.not_mem_nil
  · rcases List.mem_cons.mp h with rfl | hmem
    · exact fun span hspan => absurd hspan List.not_mem_nil
    · obtain ⟨printed, -, rfl⟩ := List.mem_map.mp hmem
      exact houtput printed

lemma not_highlighted_of_mem_outputLines (h : line ∈ p.outputLines) : ¬ Highlighted line := by
  rintro ⟨span, hspan, hunderlined⟩
  rw [style_of_mem_outputLines h span hspan] at hunderlined
  cases hunderlined

/-- The line of a target is underlined if that target is the selected one. -/
lemma highlighted_choiceLine_iff {target : Text} {isSelected : Bool} :
    Highlighted (choiceLine target isSelected) ↔ isSelected = true := by
  cases isSelected <;> simp [Highlighted, choiceLine]

/-- **A view that highlights a target**, and nothing else. -/
structure Highlights (p : Picker) (target : Text) : Prop where
  /-- It is the selected one. -/
  selected : p.choices[p.selected]? = some target
  /-- It stands in its row, with the marker in front. -/
  marked : p.view[p.row p.selected]?
    = some [{ text := ['>', ' '] }, { text := target, style := .underlined }]
  /-- No other row has an underlined span. -/
  unique : ∀ i line, p.view[i]? = some line → (Highlighted line ↔ i = p.row p.selected)
  /-- The other targets stand in their rows, without the marker and in bold. -/
  others : ∀ index other, index ≠ p.selected → p.choices[index]? = some other →
    p.view[p.row index]? = some [{ text := [' ', ' '] }, { text := other, style := .bold }]
  /-- Below the targets stands the output. -/
  below : p.view.drop (p.row p.choices.length) = p.outputLines
  /-- Output is plain, whatever was printed. -/
  output : ∀ line ∈ p.outputLines, ∀ span ∈ line, span.style = .plain

/-- **Exactly the selected target is highlighted.** -/
theorem highlights_selectedTarget (h : p.selected < p.choices.length) :
    p.Highlights p.selectedTarget := by
  have hselected : p.choices[p.selected]? = some p.selectedTarget := by
    rw [selectedTarget, List.getD_eq_getElem _ _ h, List.getElem?_eq_getElem h]
  exact {
    selected := hselected
    marked := by
      rw [getElem?_view_row hselected, beq_self_eq_true]
      rfl
    unique := by
      intro i line hline
      have hrow : p.view[p.row p.selected]? = some (choiceLine p.selectedTarget true) := by
        rw [getElem?_view_row hselected, beq_self_eq_true]
      constructor
      · intro hhighlighted
        rcases getElem?_view hline with hheader | ⟨index, target, rfl, rfl⟩ | houtput
        · exact absurd hhighlighted (not_highlighted_of_mem_header hheader)
        · rw [highlighted_choiceLine_iff, beq_iff_eq] at hhighlighted
          rw [hhighlighted]
        · exact absurd hhighlighted (not_highlighted_of_mem_outputLines houtput)
      · rintro rfl
        rw [← Option.some.inj (hrow.symm.trans hline), highlighted_choiceLine_iff]
    others := by
      intro index other hne hother
      rw [getElem?_view_row hother, beq_false_of_ne hne]
      rfl
    below := by
      rw [view_eq, ← List.append_assoc, row_eq, ← length_choiceLines, ← List.length_append,
        List.drop_left]
    output := fun line => style_of_mem_outputLines }

end Picker

/-! ## Sessions -/

namespace Session

variable {World : Type} {runner : Runner World} {s : Session World}

/-- **One run of a target**, and what it leaves of a session. -/
structure RunsOnce (runner : Runner World) (s s' : Session World) (target : Text) : Prop where
  runs : s'.runs = s.runs ++ [target]
  world : s'.world = (runner target s.world).2
  output : s'.picker.output = (runner target s.world).1.output
  log : s'.log = s.log ++ .running target :: (runner target s.world).1.log
  choices : s'.picker.choices = s.picker.choices
  selected : s'.picker.selected = s.picker.selected
  mode : s'.picker.mode = s.picker.mode

/-- **The enter key** runs the selected target, unless a search text is being edited. -/
theorem runsOnce_press_enter (hmode : s.picker.mode ≠ .enteringSearch) (held : Modifiers) :
    s.RunsOnce runner (s.press runner (.enter held)) s.picker.selectedTarget := by
  cases hcase : s.picker.mode with
  | browsing =>
      have hpress : s.picker.press (.enter held)
          = (s.picker.clear, some s.picker.selectedTarget) := by
        rw [Picker.press, hcase]
        rfl
      rw [press, hpress]
      constructor <;> rfl
  | enteringSearch => exact absurd hcase hmode
  | searching =>
      have hpress : s.picker.press (.enter held)
          = (s.picker, some s.picker.selectedTarget) := by
        rw [Picker.press, hcase]
        rfl
      rw [press, hpress]
      constructor <;> rfl

/-- **What is highlighted is what runs**, throughout every session with a target to pick. -/
theorem highlighted_is_run (runner : Runner World) (choices : List Text) (hne : choices ≠ [])
    (world : World) (keys : List Key) (s : Session World)
    (hs : (start choices world).pressAll runner keys = s) (held : Modifiers) :
    s.picker.choices = choices ∧
    ∃ target, s.picker.Highlights target ∧
      (s.picker.mode = .browsing ∨ s.picker.mode = .searching →
        s.RunsOnce runner (s.press runner (.enter held)) target) := by
  have hchoices : s.picker.choices = choices := by
    rw [← hs, choices_pressAll]
    rfl
  have hselected : s.picker.selected < s.picker.choices.length := by
    rw [hchoices, ← hs]
    exact selected_pressAll_lt (s := start choices world) runner (List.length_pos_of_ne_nil hne)
      keys
  refine ⟨hchoices, s.picker.selectedTarget, Picker.highlights_selectedTarget hselected, ?_⟩
  rintro (hmode | hmode)
  all_goals exact runsOnce_press_enter (by rw [hmode]; decide) held

/-- Two targets have one name, and what they print looks like a selected target.  The second one is
run first, and the search then goes round to the first one. -/
theorem highlighted_is_run_among_namesakes :
    let runner : Runner ℕ := fun _ calls => (⟨"> all\n".toList, []⟩, calls + 1)
    let s := (start ["all".toList, "all".toList] 0).pressAll runner
      ([.typed 'j', .enter {}] ++ "/all".toList.map Key.typed ++ [.enter {}])
    s.picker.view.map (fun line => decide (Highlighted line))
        = [false, false, false, false, false, false, true, false, false, false] ∧
      s.runs = ["all".toList] ∧
      ∃ target, s.picker.Highlights target ∧
        s.RunsOnce runner (s.press runner (.enter {})) target := by
  intro runner s
  obtain ⟨-, target, hhighlights, hruns⟩ :=
    highlighted_is_run runner ["all".toList, "all".toList] (by decide) 0 _ s rfl {}
  exact ⟨by decide +kernel, by decide +kernel, target, hhighlights,
    hruns (Or.inr (by decide +kernel))⟩

end Session

end TargetPicker
