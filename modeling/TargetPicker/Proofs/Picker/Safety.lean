import Mathlib.Data.List.GetD
import Mathlib.Tactic.Common
import TargetPicker.Proofs.Picker.Selection
import TargetPicker.Proofs.Startup

/-!
# Indices and machine words

The picker counts with natural numbers, and where an index has no target it goes on with an empty
one.  A machine does neither: it stops at an index outside the targets, at a remainder by zero, and
at a number that does not fit into a word.  `Picker.press?` is a key on such a machine, with every
index looked up and every number kept in a word, and nothing if the machine stops.

**A machine never stops** (`Session.start_safe`): it does what the picker does, whatever keys are
pressed, if there is a target to begin with and the sum of two indices fits into a word.  Targets
that were loaded are such (`exists_of_loadTargets`).
-/

namespace TargetPicker

/-! ## Machine words -/

namespace Word

variable {a b : ℕ}

/-- The sum, if it fits into a word. -/
def add? (a b : ℕ) : Option ℕ := if a + b < Count.limit then some (a + b) else none

/-- The difference, if it is not below zero. -/
def sub? (a b : ℕ) : Option ℕ := if b ≤ a then some (a - b) else none

/-- The remainder, unless the divisor is zero. -/
def mod? (a b : ℕ) : Option ℕ := if b = 0 then none else some (a % b)

/-- The sum, or the greatest word if it does not fit. -/
def saturatingAdd (a b : ℕ) : ℕ := min (a + b) (Count.limit - 1)

lemma add?_eq (h : a + b < Count.limit) : add? a b = some (a + b) := if_pos h

lemma sub?_eq (h : b ≤ a) : sub? a b = some (a - b) := if_pos h

lemma mod?_eq (h : 0 < b) : mod? a b = some (a % b) := if_neg (Nat.ne_of_gt h)

/-- Two numbers of 63 bits have a sum of one word. -/
lemma add_lt_limit (ha : a < 2 ^ 63) (hb : b < 2 ^ 63) : a + b < Count.limit := by
  have hlimit : Count.limit = 2 ^ 63 + 2 ^ 63 := rfl
  omega

end Word

/-! ## The picker on a machine -/

namespace Picker

variable {p : Picker}

/-- The target under the cursor. -/
def selectedTarget? (p : Picker) : Option Text := p.choices[p.selected]?

/-- Whether the target at an index contains the search text. -/
def matchesAt? (p : Picker) (index : ℕ) : Option Bool := p.choices[index]?.map p.buffer.isPartOf

/-- The first index that matches, or else the selected one.  An index is worked out when it is its
turn. -/
def firstMatch? (p : Picker) (index? : ℕ → Option ℕ) : List ℕ → Option ℕ
  | [] => some p.selected
  | d :: distances => do
    let index ← index? d
    if ← p.matchesAt? index then return index else p.firstMatch? index? distances

/-- The nearest match after the selected target. -/
def nextMatch? (p : Picker) : Option ℕ :=
  p.firstMatch? (fun d => do Word.mod? (← Word.add? p.selected d) p.choices.length) p.distances

/-- The nearest match before the selected target. -/
def previousMatch? (p : Picker) : Option ℕ :=
  p.firstMatch? (fun d => do
    let sum ← Word.add? p.selected p.choices.length
    Word.mod? (← Word.sub? sum d) p.choices.length) p.distances

/-- Down by a number of targets. -/
def down? (p : Picker) (n : ℕ) : Option Picker := do
  let last ← Word.sub? p.choices.length 1
  return { p with selected := min last (Word.saturatingAdd p.selected n) }

/-- A key while browsing.  Going up needs no care: it stops at zero as naturals do. -/
def pressBrowsing? (p : Picker) : KeyCode → Option (Picker × Option Text)
  | .down | .char 'j' => do return ((← p.down? (Count.ofText p.buffer)).clear, none)
  | .enter => do return (p.clear, some (← p.selectedTarget?))
  | code => some (p.pressBrowsing code)

/-- A key while the search text is edited. -/
def pressEntering? (p : Picker) : KeyCode → Option Picker
  | .enter => do return { p with mode := .searching, selected := ← p.nextMatch? }
  | code => some (p.pressEntering code)

/-- A key while a search is active. -/
def pressSearching? (p : Picker) : KeyCode → Option (Picker × Option Text)
  | .char 'n' => do return ({ p with selected := ← p.nextMatch? }, none)
  | .char 'N' => do return ({ p with selected := ← p.previousMatch? }, none)
  | .enter => do return (p, some (← p.selectedTarget?))
  | code => some (p.pressSearching code)

/-- One key. -/
def press? (p : Picker) (k : Key) : Option (Picker × Option Text) :=
  if k.isInterrupt then some ({ p with shouldQuit := true }, none)
  else if k.code = .escape then some ({ p with mode := .browsing }.clear, none)
  else match p.mode with
    | .browsing => p.pressBrowsing? k.code
    | .enteringSearch => (p.pressEntering? k.code).map fun p => (p, none)
    | .searching => p.pressSearching? k.code

/-- What a machine needs: the selection is on a target, and two indices can be added. -/
structure FitsMachine (p : Picker) : Prop where
  selected_lt : p.selected < p.choices.length
  length_lt : p.choices.length < 2 ^ 63

lemma selectedTarget?_eq (h : p.selected < p.choices.length) :
    p.selectedTarget? = some p.selectedTarget := by
  rw [selectedTarget?, selectedTarget, List.getElem?_eq_getElem h, List.getD_eq_getElem _ _ h]

lemma matchesAt?_eq {index : ℕ} (h : index < p.choices.length) :
    p.matchesAt? index = some (p.matchesAt index) := by
  rw [matchesAt?, matchesAt, List.getElem?_eq_getElem h, List.getD_eq_getElem _ _ h]
  rfl

/-- A search goes through if each of its indices can be worked out and has a target. -/
lemma firstMatch?_eq {index? : ℕ → Option ℕ} {index : ℕ → ℕ} {distances : List ℕ}
    (hindex : ∀ d ∈ distances, index? d = some (index d))
    (hlt : ∀ d ∈ distances, index d < p.choices.length) :
    p.firstMatch? index? distances = some (p.firstMatch (distances.map index)) := by
  induction distances with
  | nil => rfl
  | cons d distances ih =>
      rw [List.forall_mem_cons] at hindex hlt
      rw [firstMatch?, hindex.1, Option.bind_eq_bind, Option.bind_some, matchesAt?_eq hlt.1,
        Option.bind_eq_bind, Option.bind_some, ih hindex.2 hlt.2, firstMatch, firstMatch,
        List.map_cons, List.find?_cons]
      cases p.matchesAt (index d) <;> rfl

namespace FitsMachine

lemma nextMatch?_eq (h : p.FitsMachine) : p.nextMatch? = some p.nextMatch := by
  obtain ⟨hselected, hlength⟩ := h
  have hlen : 0 < p.choices.length := Nat.zero_lt_of_lt hselected
  refine firstMatch?_eq (fun d hd => ?_) fun d _ => Nat.mod_lt _ hlen
  have hd : d < p.choices.length := by
    rw [distances, List.mem_range'_1] at hd
    omega
  rw [Word.add?_eq (Word.add_lt_limit (hselected.trans hlength) (hd.trans hlength))]
  exact Word.mod?_eq hlen

lemma previousMatch?_eq (h : p.FitsMachine) : p.previousMatch? = some p.previousMatch := by
  obtain ⟨hselected, hlength⟩ := h
  have hlen : 0 < p.choices.length := Nat.zero_lt_of_lt hselected
  refine firstMatch?_eq (fun d hd => ?_) fun d _ => Nat.mod_lt _ hlen
  have hd : d ≤ p.selected + p.choices.length := by
    rw [distances, List.mem_range'_1] at hd
    omega
  rw [Word.add?_eq (Word.add_lt_limit (hselected.trans hlength) hlength), Option.bind_eq_bind,
    Option.bind_some, Word.sub?_eq hd]
  exact Word.mod?_eq hlen

lemma down?_eq (h : p.FitsMachine) (n : ℕ) : p.down? n = some (p.down n) := by
  obtain ⟨hselected, hlength⟩ := h
  have hlast : p.choices.length - 1 < Count.limit := by
    have hsum := Word.add_lt_limit hlength hlength
    omega
  have hmin : min (p.choices.length - 1) (Word.saturatingAdd p.selected n)
      = min (p.choices.length - 1) (p.selected + n) := by
    rw [Word.saturatingAdd]
    omega
  rw [down?, Word.sub?_eq (Nat.one_le_of_lt hselected), Option.bind_eq_bind, Option.bind_some,
    hmin]
  rfl

lemma pressBrowsing?_eq (h : p.FitsMachine) (code : KeyCode) :
    p.pressBrowsing? code = some (p.pressBrowsing code) := by
  unfold pressBrowsing?
  split
  · rw [h.down?_eq]
    rfl
  · rw [h.down?_eq]
    rfl
  · rw [selectedTarget?_eq h.selected_lt]
    rfl
  · rfl

lemma pressEntering?_eq (h : p.FitsMachine) (code : KeyCode) :
    p.pressEntering? code = some (p.pressEntering code) := by
  unfold pressEntering?
  split
  · rw [h.nextMatch?_eq]
    rfl
  · rfl

lemma pressSearching?_eq (h : p.FitsMachine) (code : KeyCode) :
    p.pressSearching? code = some (p.pressSearching code) := by
  unfold pressSearching?
  split
  · rw [h.nextMatch?_eq]
    rfl
  · rw [h.previousMatch?_eq]
    rfl
  · rw [selectedTarget?_eq h.selected_lt]
    rfl
  · rfl

/-- **A key on a machine** does what it does to the picker. -/
theorem press?_eq (h : p.FitsMachine) (k : Key) : p.press? k = some (p.press k) := by
  rw [press?, press, h.pressBrowsing?_eq, h.pressEntering?_eq, h.pressSearching?_eq]
  split
  · rfl
  · split
    · rfl
    · cases p.mode <;> rfl

lemma press (h : p.FitsMachine) (k : Key) : (p.press k).1.FitsMachine where
  selected_lt := by
    rw [choices_press]
    exact selected_press_lt h.selected_lt k
  length_lt := by
    rw [choices_press]
    exact h.length_lt

end FitsMachine

end Picker

/-! ## Sessions on a machine -/

namespace Session

variable {World : Type} (runner : Runner World)

/-- One key, and the run that it asks for. -/
def press? (s : Session World) (k : Key) : Option (Session World) := do
  match ← s.picker.press? k with
  | (picker, none) => return { s with picker }
  | (picker, some target) => return { s with picker }.run runner target

/-- A sequence of keys. -/
def pressAll? (s : Session World) (keys : List Key) : Option (Session World) :=
  keys.foldlM (press? runner) s

variable {runner}

lemma press?_eq {s : Session World} (h : s.picker.FitsMachine) (k : Key) :
    s.press? runner k = some (s.press runner k) := by
  rw [press?, h.press?_eq, press]
  rcases s.picker.press k with ⟨picker, _ | target⟩ <;> rfl

lemma fitsMachine_press {s : Session World} (h : s.picker.FitsMachine) (k : Key) :
    (s.press runner k).picker.FitsMachine := by
  rcases picker_press runner s k with hpicker | ⟨output, hpicker⟩ <;> rw [hpicker]
  · exact h.press k
  · exact ⟨(h.press k).selected_lt, (h.press k).length_lt⟩

/-- **A sequence of keys on a machine** does what it does to the session. -/
theorem pressAll?_eq {s : Session World} (h : s.picker.FitsMachine) (keys : List Key) :
    s.pressAll? runner keys = some (s.pressAll runner keys) := by
  induction keys generalizing s with
  | nil => rfl
  | cons k keys ih =>
      rw [pressAll?, List.foldlM_cons, press?_eq h, Option.bind_eq_bind, Option.bind_some]
      exact ih (fitsMachine_press h k)

variable (runner)

/-- **Safety** of a sequence of keys: the machine does not stop, there are the same targets as
before, and the selection is on one of them. -/
structure Safe (s : Session World) (keys : List Key) : Prop where
  pressAll?_eq : s.pressAll? runner keys = some (s.pressAll runner keys)
  choices_eq : (s.pressAll runner keys).picker.choices = s.picker.choices
  selected_lt : (s.pressAll runner keys).picker.selected < s.picker.choices.length
  selectedTarget?_eq : (s.pressAll runner keys).picker.selectedTarget?
    = some (s.pressAll runner keys).picker.selectedTarget

lemma safe_of_fitsMachine {s : Session World} (h : s.picker.FitsMachine) (keys : List Key) :
    s.Safe runner keys where
  pressAll?_eq := pressAll?_eq h keys
  choices_eq := choices_pressAll runner s keys
  selected_lt := selected_pressAll_lt runner h.selected_lt keys
  selectedTarget?_eq := by
    refine Picker.selectedTarget?_eq ?_
    rw [choices_pressAll]
    exact selected_pressAll_lt runner h.selected_lt keys

lemma safe_start {choices : List Text} (world : World) (hne : choices ≠ [])
    (hlength : choices.length < 2 ^ 63) (keys : List Key) :
    (start choices world).Safe runner keys :=
  safe_of_fitsMachine runner ⟨List.length_pos_of_ne_nil hne, hlength⟩ keys

/-- **Every session is safe**: one with fewer than `2 ^ 63` targets, of which there is one at least.
Whenever targets are loaded there is one, and there are no more of them than the file has bytes. -/
theorem start_safe (world : World) (keys : List Key) :
    (∀ choices : List Text, choices ≠ [] → choices.length < 2 ^ 63 →
      (start choices world).Safe runner keys) ∧
    ∀ (path : Text) (found : Except Failure Bool) (opened : Except Failure (List ReadEvent))
      (targets : List Text), (loadTargets path found opened).result = .ok targets →
      targets ≠ [] ∧
      (targets.length < 2 ^ 63 → (start targets world).Safe runner keys) ∧
      ∃ events, opened = .ok events ∧ targets.length ≤ ReadEvent.contentLength events := by
  refine ⟨fun choices hne hlength => safe_start runner world hne hlength keys, ?_⟩
  intro path found opened targets hload
  obtain ⟨hne, events, m, hopened, hparse, rfl⟩ := exists_of_loadTargets hload
  refine ⟨hne, fun hlength => safe_start runner world hne hlength keys, events, hopened, ?_⟩
  rw [Makefile.targets, List.length_map]
  exact Makefile.length_rules_le hparse

/-- Two targets of a makefile, and keys of every mode: a count beyond the last target, a search and
its repetition, and a run. -/
theorem start_safe_of_two_targets :
    (loadTargets [] (.ok true) (.ok [.bytes (Text.utf8 "all:\n\tcc\nlib:\n".toList)])).result
      = .ok ["all".toList, "lib".toList] ∧
    (start ["all".toList, "lib".toList] ()).Safe (fun target world => (⟨target, []⟩, world))
      ("9j/l".toList.map Key.typed ++ [{ code := .enter }] ++ "nN".toList.map Key.typed ++
        [{ code := .enter }]) := by
  have hload : (loadTargets [] (.ok true)
      (.ok [.bytes (Text.utf8 "all:\n\tcc\nlib:\n".toList)])).result
        = .ok ["all".toList, "lib".toList] := by
    decide +kernel
  exact ⟨hload, ((start_safe _ () _).2 _ _ _ _ hload).2.1 (by decide)⟩

end Session

end TargetPicker
