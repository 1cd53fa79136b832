import Mathlib.Data.List.Basic
import Mathlib.Tactic.Common
import TargetPicker.Picker.Basic

/-!
# The selected target

Three keys move the selection by a search, two by a count, and the others leave it where it is.

A search tries the other targets in a circle.  `Picker.others` is that circle without going through
remainders: the indices behind the selected one, and then those before it.  Searching forwards tries
them in this order and searching backwards in the reverse one (`nextMatch_eq`, `previousMatch_eq`),
so a search ends at an index of a target, and so does every key (`selected_press_lt`).

`Session.pressAll_induction` carries such a fact from keys to whole sessions.
-/

namespace TargetPicker

namespace Picker

variable {p : Picker}

/-! ## The circle -/

/-- The indices of the other targets, going round from the selected one. -/
def others (p : Picker) : List ℕ :=
  List.range' (p.selected + 1) (p.choices.length - 1 - p.selected) ++ List.range p.selected

/-- All indices: those before the selected one, that one, and those behind it. -/
lemma range_length_eq (h : p.selected < p.choices.length) :
    List.range p.choices.length
      = List.range p.selected ++ p.selected ::
        List.range' (p.selected + 1) (p.choices.length - 1 - p.selected) := by
  have hlength : p.choices.length = p.selected + (p.choices.length - 1 - p.selected + 1) := by
    omega
  conv_lhs => rw [hlength, List.range_eq_range', ← List.range'_append_1]
  rw [Nat.zero_add, List.range'_succ, List.range_eq_range']

lemma mem_others (h : p.selected < p.choices.length) {index : ℕ} :
    index ∈ p.others ↔ index < p.choices.length ∧ index ≠ p.selected := by
  simp only [others, List.mem_append, List.mem_range'_1, List.mem_range]
  omega

lemma forwards_eq_others (h : p.selected < p.choices.length) :
    (p.distances.map fun d => (p.selected + d) % p.choices.length) = p.others := by
  refine List.ext_getElem ?_ fun i hi _ => ?_
  · simp [distances, others]
    omega
  · have hlen : i < p.choices.length - 1 := by simpa [distances] using hi
    simp only [distances, others, List.getElem_map, List.getElem_range', List.getElem_append,
      List.length_range', List.getElem_range]
    split
    · rw [Nat.mod_eq_of_lt (by omega)]
      omega
    · rw [Nat.mod_eq_sub_mod (by omega), Nat.mod_eq_of_lt (by omega)]
      omega

lemma backwards_eq_others_reverse (h : p.selected < p.choices.length) :
    (p.distances.map fun d => (p.selected + p.choices.length - d) % p.choices.length)
      = p.others.reverse := by
  refine List.ext_getElem ?_ fun i hi _ => ?_
  · simp [distances, others]
    omega
  · have hlen : i < p.choices.length - 1 := by simpa [distances] using hi
    simp only [distances, others, List.getElem_map, List.getElem_range', List.getElem_reverse,
      List.getElem_append, List.length_range', List.length_append, List.length_range,
      List.getElem_range]
    split
    · rw [Nat.mod_eq_of_lt (by omega)]
      omega
    · rw [Nat.mod_eq_sub_mod (by omega), Nat.mod_eq_of_lt (by omega)]
      omega

/-! ## Searches -/

/-- Searching forwards. -/
theorem nextMatch_eq (h : p.selected < p.choices.length) :
    p.nextMatch = p.firstMatch p.others := by
  rw [nextMatch, forwards_eq_others h]

/-- Searching backwards. -/
theorem previousMatch_eq (h : p.selected < p.choices.length) :
    p.previousMatch = p.firstMatch p.others.reverse := by
  rw [previousMatch, backwards_eq_others_reverse h]

/-- A search among indices of targets ends at one. -/
lemma firstMatch_lt {indices : List ℕ} (h : p.selected < p.choices.length)
    (hindices : ∀ index ∈ indices, index < p.choices.length) :
    p.firstMatch indices < p.choices.length := by
  rw [firstMatch]
  cases hfind : indices.find? p.matchesAt with
  | none => exact h
  | some index => exact hindices index (List.mem_of_find?_eq_some hfind)

lemma nextMatch_lt (h : p.selected < p.choices.length) : p.nextMatch < p.choices.length := by
  rw [nextMatch_eq h]
  exact firstMatch_lt h fun index hindex => ((mem_others h).mp hindex).1

lemma previousMatch_lt (h : p.selected < p.choices.length) :
    p.previousMatch < p.choices.length := by
  rw [previousMatch_eq h]
  exact firstMatch_lt h fun index hindex => ((mem_others h).mp (List.mem_reverse.mp hindex)).1

/-! ## Keys -/

/-- **Every key keeps the selection on a target.** -/
theorem selected_press_lt (h : p.selected < p.choices.length) (k : Key) :
    (p.press k).1.selected < p.choices.length := by
  have hnext := nextMatch_lt h
  have hprevious := previousMatch_lt h
  unfold press
  split
  · exact h
  · split
    · exact h
    · split
      · unfold pressBrowsing
        split <;> simp only [clear, up, down, push] <;> omega
      · unfold pressEntering
        split <;> simp only [push] <;> omega
      · unfold pressSearching
        split <;> simp only [clear] <;> omega

end Picker

/-! ## Sessions -/

namespace Session

variable {World : Type} (runner : Runner World)

/-- A key changes the picker as it says, and the run that it asks for changes the output only. -/
lemma picker_press (s : Session World) (k : Key) :
    (s.press runner k).picker = (s.picker.press k).1 ∨
      ∃ output, (s.press runner k).picker = (s.picker.press k).1.withOutput output := by
  rw [press]
  rcases s.picker.press k with ⟨picker, _ | target⟩
  · exact Or.inl rfl
  · exact Or.inr ⟨(runner target s.world).1.output, rfl⟩

variable {runner} in
lemma pressAll_cons (s : Session World) (k : Key) (keys : List Key) :
    s.pressAll runner (k :: keys) = (s.press runner k).pressAll runner keys := rfl

variable {runner} in
lemma pressAll_concat (s : Session World) (keys : List Key) (k : Key) :
    s.pressAll runner (keys ++ [k]) = (s.pressAll runner keys).press runner k := by
  rw [pressAll, List.foldl_append]
  rfl

/-- **What every key keeps holds throughout a session**, if no output matters to it. -/
theorem pressAll_induction (Invariant : Picker → Prop)
    (hpress : ∀ p k, Invariant p → Invariant (p.press k).1)
    (houtput : ∀ p output, Invariant p → Invariant (p.withOutput output))
    {s : Session World} (h : Invariant s.picker) (keys : List Key) :
    Invariant (s.pressAll runner keys).picker := by
  induction keys generalizing s with
  | nil => exact h
  | cons k keys ih =>
      refine ih (s := s.press runner k) ?_
      rcases picker_press runner s k with hpicker | ⟨output, hpicker⟩ <;> rw [hpicker]
      · exact hpress _ k h
      · exact houtput _ output (hpress _ k h)

/-- The targets to pick from stay the same. -/
theorem choices_pressAll (s : Session World) (keys : List Key) :
    (s.pressAll runner keys).picker.choices = s.picker.choices := by
  refine pressAll_induction runner (fun p => p.choices = s.picker.choices) ?_ ?_ rfl keys
  · intro p k h
    rw [Picker.choices_press, h]
  · intro p output h
    exact h

/-- **The selection stays on a target** throughout a session. -/
theorem selected_pressAll_lt {s : Session World} (h : s.picker.selected < s.picker.choices.length)
    (keys : List Key) :
    (s.pressAll runner keys).picker.selected < s.picker.choices.length := by
  rw [← choices_pressAll runner s keys]
  refine pressAll_induction runner (fun p => p.selected < p.choices.length) ?_ ?_ h keys
  · intro p k hp
    rw [Picker.choices_press]
    exact Picker.selected_press_lt hp k
  · intro p output hp
    exact hp

end Session

end TargetPicker
