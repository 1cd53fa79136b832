import Mathlib.Order.Lattice.Nat
import Mathlib.Tactic.Common
import TargetPicker.Proofs.Picker.Highlight
import TargetPicker.Proofs.Picker.SearchCycle

/-!
# The nearest match

A search tries the other targets at growing distances from the selected one.  So it ends at the
least distance at which it finds the text, and where there is no such distance it stays
(`Picker.FindsNearest`).  The two directions differ in nothing but the place that a distance leads
to (`Picker.placeAfter`, `Picker.placeBefore`), and one lemma does for both
(`findsNearest_firstMatch`).

**Mirror images.**  With the targets in reverse order, a distance leads forwards to where it led
backwards before (`placeAfter_mirrored`).  The text is then found at the same distances, and the
least one of them leads to mirrored places (`previousMatch_eq_mirrored`).
-/

namespace TargetPicker

namespace Picker

variable {p : Picker} {d index : ℕ}

/-! ## Places in the circle -/

/-- Holds of the index of a target that has the search text in it. -/
def HasText (p : Picker) (index : ℕ) : Prop :=
  ∃ target, p.choices[index]? = some target ∧ p.buffer <:+: target

/-- The index at a distance after the selected one, going round. -/
def placeAfter (p : Picker) (d : ℕ) : ℕ := (p.selected + d) % p.choices.length

/-- The index at a distance before the selected one, going round. -/
def placeBefore (p : Picker) (d : ℕ) : ℕ := (((p.selected : ℤ) - d) % p.choices.length).toNat

/-- **The distances at which the text is found**, by the places that they lead to.  The selected
target is not among these. -/
def foundAt (p : Picker) (place : ℕ → ℕ) : Set ℕ :=
  {d | 1 ≤ d ∧ d < p.choices.length ∧ p.HasText (place d)}

lemma hasText_iff : p.HasText index ↔ index < p.choices.length ∧ p.matchesAt index = true := by
  rw [HasText, ← mem_matchingIndices_iff, mem_matchingIndices]

lemma placeAfter_lt (h : p.selected < p.choices.length) (d : ℕ) :
    p.placeAfter d < p.choices.length :=
  Nat.mod_lt _ (Nat.zero_lt_of_lt h)

/-- One round more keeps the difference from going below zero. -/
lemma placeBefore_eq (hd : d ≤ p.choices.length) :
    p.placeBefore d = (p.selected + p.choices.length - d) % p.choices.length := by
  have hround : ((p.selected : ℤ) - d) % p.choices.length
      = ((p.selected + p.choices.length - d) % p.choices.length : ℕ) := by
    rw [← Int.add_emod_right]
    push_cast [Nat.le_add_left_of_le hd]
    congr 1
    omega
  rw [placeBefore, hround, Int.toNat_natCast]

lemma placeBefore_lt (h : p.selected < p.choices.length) (hd : d ≤ p.choices.length) :
    p.placeBefore d < p.choices.length := by
  rw [placeBefore_eq hd]
  exact Nat.mod_lt _ (Nat.zero_lt_of_lt h)

/-- Every other target is at a distance after the selected one. -/
lemma exists_placeAfter (h : p.selected < p.choices.length) (hindex : index < p.choices.length)
    (hne : index ≠ p.selected) : ∃ d, 1 ≤ d ∧ d < p.choices.length ∧ p.placeAfter d = index := by
  -- a target above the selected one is reached beyond the end of the list
  rcases Nat.lt_or_gt_of_ne hne with hlt | hgt
  · refine ⟨p.choices.length - p.selected + index, by omega, by omega, ?_⟩
    rw [placeAfter, Nat.mod_eq_sub_mod (by omega), Nat.mod_eq_of_lt (by omega)]
    omega
  · refine ⟨index - p.selected, by omega, by omega, ?_⟩
    rw [placeAfter, Nat.mod_eq_of_lt (by omega)]
    omega

/-! ## Searches -/

/-- **A search that ends at the nearest match**, the distances leading to given places. -/
structure FindsNearest (p : Picker) (place : ℕ → ℕ) (found : ℕ) : Prop where
  /-- It ends where the least distance at which the text is found leads to. -/
  nearest : ∀ d, IsLeast (p.foundAt place) d → found = place d
  /-- It stays if the text is found at no distance, even if the selected target does not have it. -/
  stays : p.foundAt place = ∅ → found = p.selected

/-- **Distances tried in ascending order** lead to the nearest match. -/
theorem findsNearest_firstMatch {place : ℕ → ℕ}
    (hplace : ∀ d, d < p.choices.length → place d < p.choices.length) :
    p.FindsNearest place (p.firstMatch (p.distances.map place)) := by
  have hmatch (d : ℕ) (hd : d < p.choices.length) :
      p.HasText (place d) ↔ p.matchesAt (place d) = true := by
    rw [hasText_iff, and_iff_right (hplace d hd)]
  have hfirst : p.firstMatch (p.distances.map place)
      = ((p.distances.find? (p.matchesAt ∘ place)).map place).getD p.selected := by
    rw [firstMatch, List.find?_map]
  constructor
  · rintro d ⟨⟨hpos, hlt, htext⟩, hleast⟩
    -- the distances are tried in ascending order, and none below the least one is a match
    have hfind : p.distances.find? (p.matchesAt ∘ place) = some d := by
      rw [distances, List.find?_range'_eq_some]
      refine ⟨(hmatch d hlt).mp htext, List.mem_range'_1.mpr (by omega), fun e he hed => ?_⟩
      have hno : ¬ p.HasText (place e) := fun htext =>
        absurd (hleast ⟨he, hed.trans hlt, htext⟩) (Nat.not_le_of_lt hed)
      rw [hmatch e (hed.trans hlt)] at hno
      simpa using hno
    rw [hfirst, hfind]
    rfl
  · intro hnone
    have hfind : p.distances.find? (p.matchesAt ∘ place) = none := by
      rw [List.find?_eq_none]
      intro d hd hfound
      rw [distances, List.mem_range'_1] at hd
      have hmem : d ∈ p.foundAt place := ⟨hd.1, by omega, (hmatch d (by omega)).mpr hfound⟩
      rw [hnone] at hmem
      exact hmem
    rw [hfirst, hfind]
    rfl

lemma findsNearest_nextMatch (h : p.selected < p.choices.length) :
    p.FindsNearest p.placeAfter p.nextMatch :=
  findsNearest_firstMatch fun d _ => placeAfter_lt h d

lemma findsNearest_previousMatch (h : p.selected < p.choices.length) :
    p.FindsNearest p.placeBefore p.previousMatch := by
  have hplaces : (p.distances.map fun d =>
      (p.selected + p.choices.length - d) % p.choices.length) = p.distances.map p.placeBefore := by
    refine List.map_congr_left fun d hd => ?_
    rw [distances, List.mem_range'_1] at hd
    exact (placeBefore_eq (by omega)).symm
  rw [previousMatch, hplaces]
  exact findsNearest_firstMatch fun d hd => placeBefore_lt h hd.le

/-- If the text is found at all, it is found at a least distance. -/
lemma exists_isLeast {place : ℕ → ℕ} (h : (p.foundAt place).Nonempty) :
    ∃ d, IsLeast (p.foundAt place) d :=
  ⟨sInf (p.foundAt place), Nat.sInf_mem h, fun _ => Nat.sInf_le⟩

/-! ## The mirror image -/

/-- The picker with its targets in reverse order, and the same one selected. -/
def mirrored (p : Picker) : Picker :=
  { p with choices := p.choices.reverse, selected := p.choices.length - 1 - p.selected }

lemma length_choices_mirrored (p : Picker) : p.mirrored.choices.length = p.choices.length :=
  List.length_reverse

lemma selected_mirrored (p : Picker) :
    p.mirrored.selected = p.choices.length - 1 - p.selected := rfl

lemma hasText_mirrored (hindex : index < p.choices.length) :
    p.mirrored.HasText (p.choices.length - 1 - index) ↔ p.HasText index := by
  have htarget : p.mirrored.choices[p.choices.length - 1 - index]? = p.choices[index]? := by
    rw [mirrored, List.getElem?_reverse (by omega), Nat.sub_sub_self (by omega)]
  rw [HasText, HasText, htarget]
  rfl

/-- **Forwards in the mirror** is backwards. -/
lemma placeAfter_mirrored (h : p.selected < p.choices.length) (hd : d < p.choices.length) :
    p.mirrored.placeAfter d = p.choices.length - 1 - p.placeBefore d := by
  rw [placeAfter, length_choices_mirrored, selected_mirrored, placeBefore_eq hd.le]
  rcases Nat.lt_or_ge p.selected d with hlt | hge
  · rw [Nat.mod_eq_sub_mod (by omega), Nat.mod_eq_of_lt (by omega), Nat.mod_eq_of_lt (by omega)]
    omega
  · rw [Nat.mod_eq_of_lt (by omega), Nat.mod_eq_sub_mod (by omega), Nat.mod_eq_of_lt (by omega)]
    omega

lemma foundAt_mirrored (h : p.selected < p.choices.length) :
    p.mirrored.foundAt p.mirrored.placeAfter = p.foundAt p.placeBefore := by
  ext d
  simp only [foundAt, Set.mem_ofPred_eq, length_choices_mirrored]
  refine and_congr_right fun _ => and_congr_right fun hd => ?_
  rw [placeAfter_mirrored h hd, hasText_mirrored (placeBefore_lt h hd.le)]

/-- **Searching backwards** is searching forwards in the mirror. -/
theorem previousMatch_eq_mirrored (h : p.selected < p.choices.length) :
    p.previousMatch = p.choices.length - 1 - p.mirrored.nextMatch := by
  have hprevious := findsNearest_previousMatch h
  have hnext : p.mirrored.FindsNearest p.mirrored.placeAfter p.mirrored.nextMatch := by
    refine findsNearest_nextMatch ?_
    rw [length_choices_mirrored]
    exact Nat.sub_lt_of_lt (Nat.sub_one_lt (by omega))
  rcases (p.foundAt p.placeBefore).eq_empty_or_nonempty with hnone | hfound
  · rw [hprevious.stays hnone, hnext.stays ((foundAt_mirrored h).trans hnone), selected_mirrored]
    omega
  · obtain ⟨d, hd⟩ := exists_isLeast hfound
    have hlt : d < p.choices.length := hd.1.2.1
    have hbefore := placeBefore_lt h hlt.le
    rw [hprevious.nearest d hd, hnext.nearest d ((foundAt_mirrored h).symm ▸ hd),
      placeAfter_mirrored h hlt]
    omega

/-! ## The end of a search text -/

/-- The enter key behind a search text goes on to the next match, and runs nothing. -/
lemma press_enter_of_enteringSearch (hmode : p.mode = .enteringSearch) (held : Modifiers) :
    p.press (.enter held) = ({ p with mode := .searching, selected := p.nextMatch }, none) := by
  rw [press, hmode]
  rfl

/-- **A selection that goes on to the nearest match.** -/
structure GoesOnTo (p : Picker) (found : ℕ) : Prop where
  /-- It has the text if any other target has it. -/
  hasText : (∃ index, index ≠ p.selected ∧ p.HasText index) → p.HasText found
  /-- No target that has the text is skipped. -/
  nearest : ∀ d ∈ p.foundAt p.placeAfter, ∃ e ∈ p.foundAt p.placeAfter,
    e ≤ d ∧ found = p.placeAfter e

lemma goesOnTo_nextMatch (h : p.selected < p.choices.length) : p.GoesOnTo p.nextMatch := by
  have hnearest : ∀ d ∈ p.foundAt p.placeAfter, ∃ e ∈ p.foundAt p.placeAfter,
      e ≤ d ∧ p.nextMatch = p.placeAfter e := by
    intro d hd
    obtain ⟨e, he⟩ := exists_isLeast ⟨d, hd⟩
    exact ⟨e, he.1, he.2 hd, (findsNearest_nextMatch h).nearest e he⟩
  refine ⟨?_, hnearest⟩
  rintro ⟨index, hne, htext⟩
  obtain ⟨d, hpos, hlt, rfl⟩ := exists_placeAfter h (hasText_iff.mp htext).1 hne
  obtain ⟨e, he, -, hfound⟩ := hnearest d ⟨hpos, hlt, htext⟩
  rw [hfound]
  exact he.2.2

/-- **A search ends at the nearest match**, in either direction, and the two directions are mirror
images.  So does the enter key behind a search text. -/
theorem search_finds_nearest (p : Picker) (h : p.selected < p.choices.length) :
    p.FindsNearest p.placeAfter p.nextMatch ∧
    p.FindsNearest p.placeBefore p.previousMatch ∧
    p.previousMatch = p.choices.length - 1 - p.mirrored.nextMatch ∧
    (p.mode = .enteringSearch → ∀ held,
      p.GoesOnTo (p.press (.enter held)).1.selected ∧ (p.press (.enter held)).2 = none ∧
      (p.press (.enter held)).1.mode = .searching) := by
  refine ⟨findsNearest_nextMatch h, findsNearest_previousMatch h, previousMatch_eq_mirrored h, ?_⟩
  intro hmode held
  rw [press_enter_of_enteringSearch hmode]
  exact ⟨goesOnTo_nextMatch h, rfl, rfl⟩

/-- Between two of five targets that have the text, forwards to the one and backwards to the
other. -/
theorem search_finds_nearest_between_two :
    let p : Picker :=
      { ofChoices ["all".toList, "build".toList, "test".toList, "clean".toList, "build-docs".toList]
        with selected := 3, buffer := "bu".toList, mode := .enteringSearch }
    p.nextMatch = 4 ∧ p.previousMatch = 1 ∧ p.mirrored.nextMatch = 3 ∧
      p.FindsNearest p.placeAfter p.nextMatch ∧ p.FindsNearest p.placeBefore p.previousMatch ∧
      p.previousMatch = p.choices.length - 1 - p.mirrored.nextMatch ∧
      p.GoesOnTo (p.press (.enter {})).1.selected := by
  intro p
  obtain ⟨hnext, hprevious, hmirrored, henter⟩ := search_finds_nearest p (by decide)
  exact ⟨by decide, by decide, by decide, hnext, hprevious, hmirrored, (henter rfl {}).1⟩

end Picker

end TargetPicker
