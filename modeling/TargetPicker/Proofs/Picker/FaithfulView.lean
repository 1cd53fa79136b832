import Mathlib.Tactic.Common
import TargetPicker.Proofs.Picker.Highlight

/-!
# What a view tells of its picker

A view is put together from blocks, two of which are not always there, and the texts in it can be
anything: a target may be empty, a search text may hold line feeds, and a process may print lines
that look like targets.  The blocks cannot be taken for one another all the same, because of the
number of spans on a line.

* The line below the help is the search line, of three spans, or the title, of one
  (`header_append_inj`).
* Below the title, the line of a target has two spans and a line of output one at most, so it shows
  where the targets end (`body_inj`).
* Within its block, a line tells the text that it was made from (`shownTarget?_choiceLine`,
  `outputLine_injective`), and the style tells which target is selected.

So a view determines all that it shows, and nothing else of the picker goes into it.
-/

namespace TargetPicker

lemma append_inj_of_forall {α : Type} {p : α → Bool} {a a' b b' : List α}
    (ha : ∀ x ∈ a, p x = true) (ha' : ∀ x ∈ a', p x = true) (hb : ∀ x ∈ b, p x = false)
    (hb' : ∀ x ∈ b', p x = false) (h : a ++ b = a' ++ b') : a = a' ∧ b = b' := by
  have hfront : ∀ {a b : List α}, (∀ x ∈ a, p x = true) → (∀ x ∈ b, p x = false) →
      (a ++ b).filter p = a := by
    intro a b ha hb
    rw [List.filter_append, List.filter_eq_self.mpr ha,
      List.filter_eq_nil_iff.mpr fun x hx => by simp [hb x hx], List.append_nil]
  have hsame : a = a' := by
    rw [← hfront ha hb, h, hfront ha' hb']
  subst hsame
  exact ⟨rfl, List.append_cancel_left h⟩

namespace Picker

variable {p q : Picker}

/-! ## The lines of a block -/

/-- The target on a line, if the line has the spans of one. -/
def shownTarget? : List Span → Option Text
  | [_, name] => some name.text
  | _ => none

@[simp] lemma shownTarget?_choiceLine (target : Text) (isSelected : Bool) :
    shownTarget? (choiceLine target isSelected) = some target := by
  cases isSelected <;> rfl

lemma shownTarget?_outputLine (line : Text) : shownTarget? (outputLine line) = none := by
  unfold outputLine
  split <;> rfl

lemma outputLine_injective : Function.Injective outputLine := by
  intro line line' h
  cases line <;> cases line' <;> simp [outputLine] at h ⊢
  exact h

lemma isSome_shownTarget?_of_mem_choiceLines {line : List Span} (h : line ∈ p.choiceLines) :
    (shownTarget? line).isSome = true := by
  obtain ⟨⟨target, index⟩, -, rfl⟩ := List.mem_map.mp h
  simp

lemma isSome_shownTarget?_of_mem_outputLines {line : List Span} (h : line ∈ p.outputLines) :
    (shownTarget? line).isSome = false := by
  unfold outputLines at h
  split at h
  · cases h
  · rcases List.mem_cons.mp h with rfl | h
    · rfl
    · obtain ⟨printed, -, rfl⟩ := List.mem_map.mp h
      simp [shownTarget?_outputLine]

lemma map_shownTarget?_choiceLines (p : Picker) :
    p.choiceLines.map shownTarget? = p.choices.map some := by
  refine List.ext_getElem? fun index => ?_
  rw [List.getElem?_map, getElem?_choiceLines, List.getElem?_map, Option.map_map]
  simp [Function.comp_def]

/-! ## Where a block ends -/

/-- **Above the targets**, the first line that is no help is the search line or the title. -/
lemma header_append_inj {a b : List (List Span)} (h : p.header ++ a = q.header ++ b) :
    p.mode.isSearch = q.mode.isSearch ∧ (p.mode.isSearch = true → p.buffer = q.buffer) ∧ a = b := by
  unfold header searchLines titleLine at h
  -- a search line is no title, so both pickers show a search or none does
  cases hp : p.mode.isSearch <;> cases hq : q.mode.isSearch <;> simp [hp, hq] at h ⊢
  · exact h
  · exact h

/-- **Below the title**, the targets end where a line has no longer two spans. -/
lemma body_inj (h : p.choiceLines ++ p.outputLines = q.choiceLines ++ q.outputLines) :
    p.choiceLines = q.choiceLines ∧ p.outputLines = q.outputLines :=
  append_inj_of_forall (fun _ => isSome_shownTarget?_of_mem_choiceLines)
    (fun _ => isSome_shownTarget?_of_mem_choiceLines)
    (fun _ => isSome_shownTarget?_of_mem_outputLines)
    (fun _ => isSome_shownTarget?_of_mem_outputLines) h

lemma choices_eq_of_choiceLines (h : p.choiceLines = q.choiceLines) : p.choices = q.choices := by
  refine List.map_injective_iff.mpr (fun _ _ => Option.some.inj) ?_
  rw [← map_shownTarget?_choiceLines, h, map_shownTarget?_choiceLines]

/-- The selected target is the one that is underlined. -/
lemma selected_eq_of_choiceLines (hselected : p.selected < p.choices.length)
    (h : p.choiceLines = q.choiceLines) : p.selected = q.selected := by
  obtain ⟨target, htarget⟩ : ∃ target, p.choices[p.selected]? = some target :=
    ⟨_, List.getElem?_eq_getElem hselected⟩
  have hp := getElem?_choiceLines p p.selected
  have hq := getElem?_choiceLines q p.selected
  rw [htarget, h] at hp
  rw [← choices_eq_of_choiceLines h, htarget, hp, Option.map_some, Option.map_some,
    Option.some.injEq] at hq
  have hunderlined : Highlighted (choiceLine target (p.selected == p.selected)) := by
    simp [highlighted_choiceLine_iff]
  rw [hq, highlighted_choiceLine_iff, beq_iff_eq] at hunderlined
  exact hunderlined

lemma lines_eq_of_outputLines (h : p.outputLines = q.outputLines) :
    (p.output = [] ↔ q.output = []) ∧ Text.lines p.output = Text.lines q.output := by
  unfold outputLines at h
  cases hp : p.output with
  | nil =>
      cases hq : q.output with
      | nil => simp
      | cons c printed => simp [hp, hq] at h
  | cons c printed =>
      cases hq : q.output with
      | nil => simp [hp, hq] at h
      | cons c' printed' =>
          simp only [hp, hq, List.isEmpty_cons, Bool.false_eq_true, if_false, List.cons.injEq,
            true_and] at h
          exact ⟨by simp, List.map_injective_iff.mpr outputLine_injective h⟩

/-! ## Views and pickers -/

/-- **Two pickers that show the same.** -/
structure ShowsSame (p q : Picker) : Prop where
  choices : p.choices = q.choices
  selected : p.selected = q.selected
  isSearch : p.mode.isSearch = q.mode.isSearch
  /-- The buffer counts only where it is shown as a search text. -/
  buffer : p.mode.isSearch = true → p.buffer = q.buffer
  output : p.output = [] ↔ q.output = []
  lines : Text.lines p.output = Text.lines q.output

lemma showsSame_of_view_eq (hselected : p.selected < p.choices.length) (h : p.view = q.view) :
    p.ShowsSame q := by
  rw [view_eq, view_eq] at h
  obtain ⟨hsearch, hbuffer, hbody⟩ := header_append_inj h
  obtain ⟨hchoices, houtput⟩ := body_inj hbody
  obtain ⟨hempty, hlines⟩ := lines_eq_of_outputLines houtput
  exact ⟨choices_eq_of_choiceLines hchoices, selected_eq_of_choiceLines hselected hchoices, hsearch,
    hbuffer, hempty, hlines⟩

lemma ShowsSame.view_eq (h : p.ShowsSame q) : p.view = q.view := by
  have hsearch : p.searchLines = q.searchLines := by
    unfold searchLines
    rw [← h.isSearch]
    split
    · next hshown => rw [h.buffer hshown]
    · rfl
  have hchoices : p.choiceLines = q.choiceLines := by
    rw [choiceLines, choiceLines, h.choices, h.selected]
  have houtput : p.outputLines = q.outputLines := by
    have hempty : p.output.isEmpty = q.output.isEmpty := by
      rw [Bool.eq_iff_iff, List.isEmpty_iff, List.isEmpty_iff]
      exact h.output
    rw [outputLines, outputLines, hempty, h.lines]
  rw [view, view, hsearch, hchoices, houtput]

/-- **The view is faithful.**  From top to bottom it has the help, the search text and an empty line
in the modes with a search, the title, a line for every target, and an empty line and the output if
there is any.  Two pickers, one of them with a target selected, have one view exactly if they show
the same, and in the mode without a search nothing that is typed is shown. -/
theorem view_faithful :
    (∀ p : Picker, p.view =
      [[⟨"Press q".toList, .bold⟩, ⟨" to quit.".toList, .plain⟩],
       [⟨"Press r".toList, .bold⟩, ⟨" to drop output.".toList, .plain⟩], []] ++
      (if p.mode = .browsing then [] else
        [[⟨"Search text:".toList, .bold⟩, ⟨" ".toList, .plain⟩, ⟨p.buffer, .plain⟩], []]) ++
      [[⟨"Makefile's targets:".toList, .plain⟩]] ++
      p.choices.mapIdx (fun index target =>
        if index = p.selected then [⟨"> ".toList, .plain⟩, ⟨target, .underlined⟩]
        else [⟨"  ".toList, .plain⟩, ⟨target, .bold⟩]) ++
      (if p.output = [] then [] else
        [] :: (Text.lines p.output).map fun line => if line = [] then [] else [⟨line, .plain⟩])) ∧
    (∀ p q : Picker, p.selected < p.choices.length → (p.view = q.view ↔ p.ShowsSame q)) ∧
    ∀ (p : Picker) (buffer : Text), p.mode = .browsing → { p with buffer }.view = p.view := by
  refine ⟨fun p => ?_, fun p q hp => ⟨showsSame_of_view_eq hp, ShowsSame.view_eq⟩, ?_⟩
  · have hsearch : p.searchLines = if p.mode = .browsing then [] else
        [[⟨"Search text:".toList, .bold⟩, ⟨" ".toList, .plain⟩, ⟨p.buffer, .plain⟩], []] := by
      cases hmode : p.mode <;> simp [searchLines, hmode, Mode.isSearch]
    have hchoices : p.choiceLines = p.choices.mapIdx fun index target =>
        if index = p.selected then [⟨"> ".toList, .plain⟩, ⟨target, .underlined⟩]
        else [⟨"  ".toList, .plain⟩, ⟨target, .bold⟩] := by
      simp [choiceLines, choiceLine, List.mapIdx_eq_zipIdx_map]
    have houtput : p.outputLines = if p.output = [] then [] else
        [] :: (Text.lines p.output).map fun line => if line = [] then [] else [⟨line, .plain⟩] := by
      have hline : outputLine = fun line => if line = [] then [] else [⟨line, .plain⟩] := by
        funext line
        simp [outputLine]
      simp [outputLines, hline]
    rw [view, hsearch, hchoices, houtput]
    rfl
  · intro p buffer hmode
    have hhidden : p.mode.isSearch = false := by rw [hmode]; rfl
    exact ShowsSame.view_eq
      { choices := rfl
        selected := rfl
        isSearch := rfl
        buffer := fun hshown => absurd hshown (by simp [hhidden])
        output := Iff.rfl
        lines := rfl }

/-- An empty target is there, and the output looks like the line of a target.  Both endings of its
line are shown alike, and a carriage return that ends no line is shown. -/
theorem view_faithful_up_to_line_endings :
    let picker (output : Text) : Picker :=
      { choices := [[], "all".toList], selected := 1, output, buffer := [], mode := .browsing
        shouldQuit := false }
    (picker "> all\n".toList).view = (picker "> all\r\n".toList).view ∧
      (picker "> all\n".toList).view ≠ (picker "> all\r".toList).view := by
  intro picker
  obtain ⟨-, hview, -⟩ := view_faithful
  constructor
  · refine (hview _ _ (by decide)).mpr ⟨rfl, rfl, rfl, fun _ => rfl, by decide, ?_⟩
    decide +kernel
  · intro h
    have hlines := ((hview _ _ (by decide)).mp h).lines
    exact absurd hlines (by decide +kernel)

end Picker

end TargetPicker
