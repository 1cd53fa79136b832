import Mathlib.Tactic.Common
import TargetPicker.Proofs.Picker.Highlight
import TargetPicker.Proofs.Steps

/-!
# What was run, and what is shown of it

One key runs something: the enter key, unless it ends a search text (`Mode.runs`).  One key drops
the output: `r`, while browsing (`Mode.drops`).  In the other modes these keys are text, or end it,
or mean nothing, and no other key has either effect.

So a session can be recounted from its steps (`Session.start_recounts`).  The targets that were run
are those that were selected at the steps that run something.  The output is what the last of these
runs printed, unless it was dropped since.

Behind its last run a session shows what it showed then, or nothing
(`Session.output_pressAll_of_quiet`), so the last run decides.
-/

namespace TargetPicker

namespace Mode

/-- Holds if a key runs the selected target. -/
def runs (m : Mode) (code : KeyCode) : Bool := m != enteringSearch && code == .enter

/-- Holds if a key drops the output. -/
def drops (m : Mode) (code : KeyCode) : Bool := m == browsing && code == .char 'r'

end Mode

/-! ## One key -/

namespace Picker

variable {p : Picker}

lemma target_pressBrowsing (hmode : p.mode = .browsing) (code : KeyCode) :
    (p.pressBrowsing code).2 = if p.mode.runs code then some p.selectedTarget else none := by
  unfold pressBrowsing
  split <;> simp_all [Mode.runs]

lemma target_pressSearching (hmode : p.mode = .searching) (code : KeyCode) :
    (p.pressSearching code).2 = if p.mode.runs code then some p.selectedTarget else none := by
  unfold pressSearching
  split <;> simp_all [Mode.runs]

/-- **A key asks for a run** of the selected target, or for none. -/
theorem target_press (p : Picker) (k : Key) :
    (p.press k).2 = if p.mode.runs k.code then some p.selectedTarget else none := by
  unfold press
  split
  · next hinterrupt => simp [Mode.runs, Key.code_of_isInterrupt hinterrupt]
  · split
    · next hescape => simp [Mode.runs, hescape]
    · split
      · next hmode => exact target_pressBrowsing hmode k.code
      · next hmode => simp [Mode.runs, hmode]
      · next hmode => exact target_pressSearching hmode k.code

lemma output_pressBrowsing (hmode : p.mode = .browsing) (code : KeyCode) :
    (p.pressBrowsing code).1.output = if p.mode.drops code then [] else p.output := by
  unfold pressBrowsing
  split <;> simp_all [Mode.drops, clear, up, down, push]

lemma output_pressEntering (code : KeyCode) : (p.pressEntering code).output = p.output := by
  unfold pressEntering
  split <;> rfl

lemma output_pressSearching (code : KeyCode) : (p.pressSearching code).1.output = p.output := by
  unfold pressSearching
  split <;> rfl

/-- **A key drops the output**, or leaves it as it is. -/
theorem output_press (p : Picker) (k : Key) :
    (p.press k).1.output = if p.mode.drops k.code then [] else p.output := by
  unfold press
  split
  · next hinterrupt => simp [Mode.drops, Key.code_of_isInterrupt hinterrupt]
  · split
    · next hescape => simp [Mode.drops, hescape, clear]
    · split
      · next hmode => exact output_pressBrowsing hmode k.code
      · next hmode => simp [output_pressEntering, Mode.drops, hmode]
      · next hmode => simp [output_pressSearching, Mode.drops, hmode]

end Picker

/-! ## Steps of a session -/

namespace Session

variable {World : Type} {runner : Runner World} {s : Session World} {k : Key}

/-- Every key of a session, with the session in which it was pressed. -/
def steps (runner : Runner World) (s : Session World) (keys : List Key) :
    List (Session World × Key) :=
  stepsOf (press runner) s keys

/-- Holds of a step that runs the selected target. -/
def ranTarget (step : Session World × Key) : Bool := step.1.picker.mode.runs step.2.code

/-- Holds of a step that drops the output. -/
def droppedOutput (step : Session World × Key) : Bool := step.1.picker.mode.drops step.2.code

lemma steps_cons (keys : List Key) :
    s.steps runner (k :: keys) = (s, k) :: (s.press runner k).steps runner keys := rfl

/-- A step that runs something is an enter key. -/
lemma runsOnce_press (h : ranTarget (s, k) = true) :
    s.RunsOnce runner (s.press runner k) s.picker.selectedTarget := by
  simp only [ranTarget, Mode.runs, Bool.and_eq_true, bne_iff_ne, beq_iff_eq] at h
  have hk : k = .enter k.modifiers := by rw [Key.enter, ← h.2]
  rw [hk]
  exact runsOnce_press_enter h.1 k.modifiers

/-- A step that runs nothing changes the picker only. -/
lemma press_of_not_ranTarget (h : ranTarget (s, k) = false) :
    s.press runner k = { s with picker := (s.picker.press k).1 } := by
  have htarget := Picker.target_press s.picker k
  rw [show s.picker.mode.runs k.code = false from h] at htarget
  rw [press]
  split
  · next hpress => rw [hpress]
  · next hpress => simp [hpress] at htarget

lemma output_press_of_not_ranTarget (h : ranTarget (s, k) = false) :
    (s.press runner k).picker.output
      = if droppedOutput (s, k) then [] else s.picker.output := by
  rw [press_of_not_ranTarget h, Picker.output_press]
  rfl

/-- **The targets that were run** are those that were selected at the steps that run something. -/
theorem runs_pressAll (keys : List Key) :
    (s.pressAll runner keys).runs
      = s.runs ++ ((s.steps runner keys).filter ranTarget).map
          fun step => step.1.picker.selectedTarget := by
  induction keys generalizing s with
  | nil => exact (List.append_nil _).symm
  | cons k keys ih =>
      rw [pressAll_cons, ih, steps_cons]
      cases hran : ranTarget (s, k) with
      | true =>
          rw [List.filter_cons_of_pos hran, (runsOnce_press hran).runs, List.append_assoc]
          rfl
      | false => rw [List.filter_cons_of_neg (by simp [hran]), press_of_not_ranTarget hran]

/-- **The world** is what the targets that were run made of it, one after the other. -/
theorem world_pressAll {world : World}
    (h : s.world = s.runs.foldl (fun world target => (runner target world).2) world)
    (keys : List Key) :
    (s.pressAll runner keys).world
      = (s.pressAll runner keys).runs.foldl (fun world target => (runner target world).2)
          world := by
  induction keys generalizing s with
  | nil => exact h
  | cons k keys ih =>
      refine ih (s := s.press runner k) ?_
      cases hran : ranTarget (s, k) with
      | true =>
          have honce : s.RunsOnce runner (s.press runner k) _ := runsOnce_press hran
          rw [honce.world, honce.runs, List.foldl_append, ← h]
          rfl
      | false =>
          rw [press_of_not_ranTarget hran]
          exact h

/-- **A session in which nothing is run** shows what it showed before, or nothing. -/
theorem output_pressAll_of_quiet {keys : List Key}
    (h : ∀ step ∈ s.steps runner keys, ranTarget step = false) :
    (s.pressAll runner keys).picker.output
      = if (s.steps runner keys).any droppedOutput then [] else s.picker.output := by
  induction keys generalizing s with
  | nil => rfl
  | cons k keys ih =>
      rw [steps_cons, List.forall_mem_cons] at h
      rw [pressAll_cons, ih h.2, output_press_of_not_ranTarget h.1, steps_cons, List.any_cons]
      cases ((s.press runner k).steps runner keys).any droppedOutput <;>
        cases droppedOutput (s, k) <;> rfl

/-! ## Whole sessions -/

/-- **A session recounted from its steps.** -/
structure Recounts (runner : Runner World) (choices : List Text) (world : World) (keys : List Key)
    (s : Session World) : Prop where
  /-- The targets that were run are the choices that were selected at the steps that run
  something. -/
  runs : s.runs.map some
    = (((start choices world).steps runner keys).filter ranTarget).map
        fun step => choices[step.1.picker.selected]?
  /-- These targets were run in this order, and nothing else happened to the world. -/
  called : s.world = s.runs.foldl (fun world target => (runner target world).2) world
  /-- What the last of these runs printed is shown, unless it was dropped since. -/
  shown : ∀ before t k after, (start choices world).steps runner keys = before ++ (t, k) :: after →
    ranTarget (t, k) = true → (∀ step ∈ after, ranTarget step = false) →
    ∃ target, choices[t.picker.selected]? = some target ∧
      s.picker.output = if after.any droppedOutput then [] else (runner target t.world).1.output
  /-- Nothing is shown before the first run. -/
  silent : (∀ step ∈ (start choices world).steps runner keys, ranTarget step = false) →
    s.picker.output = []
  /-- A key that neither runs something nor drops the output leaves the output as it is. -/
  kept : ∀ k, ranTarget (s, k) = false → droppedOutput (s, k) = false →
    (s.press runner k).picker.output = s.picker.output

/-- The target selected at a step is one of the choices. -/
lemma getElem?_selected_of_mem_steps {choices : List Text} (hne : choices ≠ []) {world : World}
    {keys : List Key} {step : Session World × Key}
    (h : step ∈ (start choices world).steps runner keys) :
    choices[step.1.picker.selected]? = some step.1.picker.selectedTarget := by
  obtain ⟨before, hbefore⟩ := exists_of_mem_stepsOf h
  have hchoices : step.1.picker.choices = choices :=
    hbefore ▸ choices_pressAll runner (start choices world) before
  have hlt : step.1.picker.selected < choices.length :=
    hbefore ▸ selected_pressAll_lt (s := start choices world) runner
      (List.length_pos_of_ne_nil hne) before
  rw [Picker.selectedTarget, hchoices, List.getD_eq_getElem _ _ hlt, List.getElem?_eq_getElem hlt]

/-- **What was run and what is shown**, in every session with a target to pick. -/
theorem start_recounts (runner : Runner World) (choices : List Text) (hne : choices ≠ [])
    (world : World) (keys : List Key) :
    ((start choices world).pressAll runner keys).Recounts runner choices world keys where
  runs := by
    rw [runs_pressAll, List.map_append, List.map_map]
    refine List.map_congr_left fun step hstep => ?_
    exact (getElem?_selected_of_mem_steps hne (List.mem_of_mem_filter hstep)).symm
  called := world_pressAll rfl keys
  shown := by
    intro before t k after hsteps hran hquiet
    have hmem : (t, k) ∈ (start choices world).steps runner keys := by
      rw [hsteps]
      exact List.mem_append_right _ List.mem_cons_self
    obtain ⟨more, rfl, hfinish⟩ := exists_of_stepsOf_eq_append hsteps
    refine ⟨t.picker.selectedTarget, getElem?_selected_of_mem_steps hne hmem, ?_⟩
    rw [pressAll, hfinish, ← pressAll, output_pressAll_of_quiet hquiet,
      (runsOnce_press hran).output]
    rfl
  silent := by
    intro hquiet
    rw [output_pressAll_of_quiet hquiet]
    exact ite_self _
  kept := by
    intro k hran hdropped
    rw [output_press_of_not_ranTarget hran, hdropped]
    rfl

/-- Two targets are run, the second one behind a search for a text with an `r` in it.  While that
search is active `r` leaves the output alone, and behind the escape key it drops it. -/
theorem start_recounts_of_two_runs :
    let runner : Runner ℕ := fun target calls => (⟨target, []⟩, calls + 1)
    let choices := ["all".toList, "lib".toList]
    let keys := [.enter {}] ++ "j/r".toList.map Key.typed ++ [.enter {}, .typed 'r', .enter {}]
    let s := (start choices 0).pressAll runner keys
    s.runs = ["all".toList, "lib".toList] ∧ s.picker.output = "lib".toList ∧
      s.Recounts runner choices 0 keys ∧
      ((s.press runner { code := .escape }).press runner (.typed 'r')).picker.output = [] := by
  intro runner choices keys s
  exact ⟨by decide +kernel, by decide +kernel, start_recounts runner choices (by decide) 0 keys,
    by decide +kernel⟩

end Session

end TargetPicker
