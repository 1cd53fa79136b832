import Mathlib.Data.List.Basic
import Mathlib.Tactic.Common

/-!
# The steps of a run

A run folds inputs into a state.  What a run did along the way is a fact about its steps: every
input, with the state that it met.
-/

namespace TargetPicker

variable {σ ι : Type*} {next : σ → ι → σ} {s : σ}

/-- **The steps of a run** from a state: every input, with the state that it met. -/
def stepsOf (next : σ → ι → σ) (s : σ) : List ι → List (σ × ι)
  | [] => []
  | i :: inputs => (s, i) :: stepsOf next (next s i) inputs

/-- One input more makes one step more, at the state that the inputs before it led to. -/
lemma stepsOf_concat (s : σ) (inputs : List ι) (i : ι) :
    stepsOf next s (inputs ++ [i]) = stepsOf next s inputs ++ [(inputs.foldl next s, i)] := by
  induction inputs generalizing s with
  | nil => rfl
  | cons j inputs ih =>
      rw [List.cons_append, stepsOf, ih, stepsOf, List.foldl_cons, List.cons_append]

/-- A step met the state that the inputs before it led to. -/
lemma exists_of_mem_stepsOf {inputs : List ι} {step : σ × ι} (h : step ∈ stepsOf next s inputs) :
    ∃ before : List ι, before.foldl next s = step.1 := by
  induction inputs generalizing s with
  | nil => cases h
  | cons i inputs ih =>
      rcases List.mem_cons.mp h with rfl | hmem
      · exact ⟨[], rfl⟩
      · obtain ⟨before, hbefore⟩ := ih hmem
        exact ⟨i :: before, hbefore⟩

/-- **The steps behind a step** are those of a run that starts where it led, and ends alike. -/
lemma exists_of_stepsOf_eq_append {inputs : List ι} {before after : List (σ × ι)} {t : σ} {i : ι}
    (h : stepsOf next s inputs = before ++ (t, i) :: after) :
    ∃ more, after = stepsOf next (next t i) more ∧
      inputs.foldl next s = more.foldl next (next t i) := by
  induction inputs generalizing s before with
  | nil => simp [stepsOf] at h
  | cons j inputs ih =>
      rw [stepsOf] at h
      cases before with
      | nil =>
          obtain ⟨hfirst, hafter⟩ := List.cons.inj h
          cases hfirst
          exact ⟨inputs, hafter.symm, rfl⟩
      | cons step before => exact ih (List.cons.inj h).2

end TargetPicker
