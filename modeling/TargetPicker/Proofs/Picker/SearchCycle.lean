import Mathlib.Data.List.GetD
import Mathlib.Data.List.Nodup
import Mathlib.Data.List.Rotate
import Mathlib.Tactic.Common
import TargetPicker.Proofs.Picker.Selection

/-!
# Going round the matches

While a search is active `n` and `N` lead from match to match.  `Picker.matchingIndices` are the
indices of all matches in ascending order, and from the selected one on they are the selected one
and the matches among the others (`rotate_matchingIndices`).  So the next match is the one behind
it in that circle, and the previous one is the one before it.

**The circle is never left** (`Session.search_cycles`): while a search is active and something
matches, the selected target matches (`Picker.Cycling`).  It is the end of the search text that
brings this about, since the text is edited without moving the selection.
-/

namespace TargetPicker

namespace Picker

variable {p : Picker} {i : ℕ}

/-! ## Matches -/

/-- **The indices of the targets that contain the search text**, in ascending order. -/
def matchingIndices (p : Picker) : List ℕ := (List.range p.choices.length).filter p.matchesAt

lemma pairwise_lt_matchingIndices (p : Picker) : p.matchingIndices.Pairwise (· < ·) :=
  List.pairwise_lt_range.filter _

lemma nodup_matchingIndices (p : Picker) : p.matchingIndices.Nodup :=
  List.nodup_range.filter _

lemma mem_matchingIndices {index : ℕ} :
    index ∈ p.matchingIndices ↔ index < p.choices.length ∧ p.matchesAt index = true := by
  rw [matchingIndices, List.mem_filter, List.mem_range]

/-- A match is the index of a target that has the search text in it. -/
lemma mem_matchingIndices_iff {index : ℕ} :
    index ∈ p.matchingIndices ↔
      ∃ target, p.choices[index]? = some target ∧ p.buffer <:+: target := by
  rw [mem_matchingIndices, matchesAt, Text.isPartOf_iff]
  constructor
  · rintro ⟨hlt, hpart⟩
    rw [List.getD_eq_getElem _ _ hlt] at hpart
    exact ⟨p.choices[index], List.getElem?_eq_getElem hlt, hpart⟩
  · rintro ⟨target, htarget, hpart⟩
    obtain ⟨hlt, rfl⟩ := List.getElem?_eq_some_iff.mp htarget
    rw [List.getD_eq_getElem _ _ hlt]
    exact ⟨hlt, hpart⟩

/-- A search finds the first match among its indices. -/
lemma firstMatch_eq_head? (indices : List ℕ) :
    p.firstMatch indices = (indices.filter p.matchesAt).head?.getD p.selected := by
  rw [firstMatch, List.head?_filter]

/-- **The circle from the selected target on**: it comes first, and the other matches follow. -/
theorem rotate_matchingIndices (h : p.matchingIndices[i]? = some p.selected) :
    p.matchingIndices.rotate i = p.selected :: p.others.filter p.matchesAt := by
  obtain ⟨hlt, hmatch⟩ := mem_matchingIndices.mp (List.mem_of_getElem? h)
  have hsplit : p.matchingIndices
      = (List.range p.selected).filter p.matchesAt ++ p.selected ::
        (List.range' (p.selected + 1) (p.choices.length - 1 - p.selected)).filter p.matchesAt := by
    rw [matchingIndices, range_length_eq hlt, List.filter_append, List.filter_cons_of_pos hmatch]
  -- the selected index stands at one place only, behind the matches before it
  have hi : i = ((List.range p.selected).filter p.matchesAt).length := by
    refine (List.getElem?_inj (List.getElem?_eq_some_iff.mp h).1 p.nodup_matchingIndices).mp ?_
    rw [h, hsplit, List.getElem?_append_right (Nat.le_refl _), Nat.sub_self,
      List.getElem?_cons_zero]
  rw [hi, hsplit, List.rotate_append_length_eq, others, List.filter_append, List.cons_append]

lemma length_matchingIndices (h : p.matchingIndices[i]? = some p.selected) :
    p.matchingIndices.length = (p.others.filter p.matchesAt).length + 1 := by
  rw [← List.length_rotate p.matchingIndices i, rotate_matchingIndices h, List.length_cons]

/-! ## Neighbours -/

/-- **The next match** is the one behind the selected one, going round. -/
theorem getElem?_nextMatch (h : p.matchingIndices[i]? = some p.selected) :
    p.matchingIndices[(i + 1) % p.matchingIndices.length]? = some p.nextMatch := by
  have hlt := (mem_matchingIndices.mp (List.mem_of_getElem? h)).1
  have hlength := length_matchingIndices h
  have hmod : 1 % p.matchingIndices.length < p.matchingIndices.length :=
    Nat.mod_lt _ (by omega)
  rw [nextMatch_eq hlt, firstMatch_eq_head?, Nat.add_comm, ← Nat.mod_add_mod,
    ← List.getElem?_rotate hmod, rotate_matchingIndices h, hlength]
  cases p.others.filter p.matchesAt with
  | nil => rfl
  | cons index others => rw [Nat.mod_eq_of_lt (by simp)]; rfl

/-- **The previous match** is the one before the selected one, going round. -/
theorem getElem?_previousMatch (h : p.matchingIndices[i]? = some p.selected) :
    p.matchingIndices[(i + p.matchingIndices.length - 1) % p.matchingIndices.length]?
      = some p.previousMatch := by
  have hlt := (mem_matchingIndices.mp (List.mem_of_getElem? h)).1
  have hlength := length_matchingIndices h
  have hlast : i + p.matchingIndices.length - 1 = (p.others.filter p.matchesAt).length + i := by
    omega
  calc p.matchingIndices[(i + p.matchingIndices.length - 1) % p.matchingIndices.length]?
      = (p.selected :: p.others.filter p.matchesAt)[(p.others.filter p.matchesAt).length]? := by
        rw [hlast, ← List.getElem?_rotate (by omega), rotate_matchingIndices h]
    _ = (p.selected :: p.others.filter p.matchesAt).getLast? := by
        rw [List.getLast?_eq_getElem?, List.length_cons, Nat.add_sub_cancel]
    _ = some p.previousMatch := by
        rw [previousMatch_eq hlt, firstMatch_eq_head?, List.filter_reverse, List.head?_reverse,
          List.getLast?_cons]

/-- Without a match a search in a circle stays where it is. -/
lemma firstMatch_eq_selected (h : p.matchingIndices = []) (index : ℕ → ℕ) :
    p.firstMatch (p.distances.map fun d => index d % p.choices.length) = p.selected := by
  have hnone : (p.distances.map fun d => index d % p.choices.length).filter p.matchesAt = [] := by
    rw [List.filter_eq_nil_iff]
    intro j hj hmatch
    obtain ⟨d, hd, rfl⟩ := List.mem_map.mp hj
    rw [distances, List.mem_range'_1] at hd
    have hmem := mem_matchingIndices.mpr ⟨Nat.mod_lt (index d) (by omega), hmatch⟩
    rw [h] at hmem
    exact List.not_mem_nil hmem
  rw [firstMatch_eq_head?, hnone, List.head?_nil, Option.getD_none]

/-- With a match a search of all other targets ends at a match. -/
lemma firstMatch_mem {indices : List ℕ} (h : p.matchingIndices ≠ [])
    (hindices : ∀ index, index ∈ indices ↔ index < p.choices.length ∧ index ≠ p.selected) :
    p.firstMatch indices ∈ p.matchingIndices := by
  rw [firstMatch]
  cases hfind : indices.find? p.matchesAt with
  | some index =>
      have hlt := ((hindices index).mp (List.mem_of_find?_eq_some hfind)).1
      exact mem_matchingIndices.mpr ⟨hlt, List.find?_some hfind⟩
  | none =>
      -- then the one match is the selected target
      obtain ⟨index, hindex⟩ := List.exists_mem_of_ne_nil _ h
      obtain ⟨hlt, hmatch⟩ := mem_matchingIndices.mp hindex
      have hselected : index = p.selected := by
        by_contra hne
        exact List.find?_eq_none.mp hfind index ((hindices index).mpr ⟨hlt, hne⟩) hmatch
      rw [Option.getD_none, ← hselected]
      exact hindex

lemma nextMatch_mem (hlt : p.selected < p.choices.length) (h : p.matchingIndices ≠ []) :
    p.nextMatch ∈ p.matchingIndices := by
  rw [nextMatch_eq hlt]
  exact firstMatch_mem h fun index => mem_others hlt

lemma previousMatch_mem (hlt : p.selected < p.choices.length) (h : p.matchingIndices ≠ []) :
    p.previousMatch ∈ p.matchingIndices := by
  rw [previousMatch_eq hlt]
  exact firstMatch_mem h fun index => List.mem_reverse.trans (mem_others hlt)

/-! ## The invariant -/

/-- A key that leaves a search active moved by that search, or there was one before and the
selection stays.  In either case the search text was there before. -/
lemma press_of_searching (k : Key) : (p.press k).1.mode = .searching →
    (p.press k).1.buffer = p.buffer ∧
      ((p.press k).1.selected = p.nextMatch ∨ (p.press k).1.selected = p.previousMatch ∨
        (p.press k).1.selected = p.selected ∧ p.mode = .searching) := by
  unfold press
  split
  · exact fun h => ⟨rfl, Or.inr (Or.inr ⟨rfl, h⟩)⟩
  · split
    · intro h
      cases h
    · split
      · next hmode =>
        unfold pressBrowsing
        split <;> simp [clear, up, down, push, hmode]
      · next hmode =>
        unfold pressEntering
        split <;> simp [push, hmode]
      · next hmode =>
        unfold pressSearching
        split <;> simp [clear, hmode]

/-- The matches are the same as long as the targets and the search text are. -/
lemma matchingIndices_congr {q : Picker} (hchoices : q.choices = p.choices)
    (hbuffer : q.buffer = p.buffer) : q.matchingIndices = p.matchingIndices := by
  have hmatches : q.matchesAt = p.matchesAt := by
    funext index
    rw [matchesAt, matchesAt, hchoices, hbuffer]
  rw [matchingIndices, matchingIndices, hchoices, hmatches]

/-- **The invariant of searches**: the selected target matches, unless no target does. -/
structure Cycling (p : Picker) : Prop where
  selected_lt : p.choices ≠ [] → p.selected < p.choices.length
  selected_mem : p.mode = .searching → p.matchingIndices ≠ [] → p.selected ∈ p.matchingIndices

namespace Cycling

lemma ofChoices (choices : List Text) : (Picker.ofChoices choices).Cycling where
  selected_lt := List.length_pos_of_ne_nil
  selected_mem := by
    intro hmode
    cases hmode

lemma choices_ne_nil (h : p.matchingIndices ≠ []) : p.choices ≠ [] := by
  intro hnil
  rw [matchingIndices, hnil] at h
  exact h rfl

/-- **Every key keeps the invariant.** -/
lemma press (h : p.Cycling) (k : Key) : (p.press k).1.Cycling where
  selected_lt := by
    rw [choices_press]
    exact fun hne => selected_press_lt (h.selected_lt hne) k
  selected_mem := by
    intro hmode hne
    obtain ⟨hbuffer, hselected⟩ := press_of_searching k hmode
    rw [matchingIndices_congr (choices_press p k) hbuffer] at hne ⊢
    have hlt := h.selected_lt (choices_ne_nil hne)
    rcases hselected with hnext | hprevious | ⟨hstays, hbefore⟩
    · rw [hnext]
      exact nextMatch_mem hlt hne
    · rw [hprevious]
      exact previousMatch_mem hlt hne
    · rw [hstays]
      exact h.selected_mem hbefore hne

end Cycling

end Picker

/-! ## Sessions -/

/-- The key that goes on to the next match, whatever is held down with it. -/
def Key.again (held : Modifiers) : Key := { code := .char 'n', modifiers := held }

/-- The key that goes back to the previous match, whatever is held down with it. -/
def Key.back (held : Modifiers) : Key := { code := .char 'N', modifiers := held }

namespace Session

variable {World : Type} {runner : Runner World} {s : Session World} {i : ℕ}

/-- The session with another target selected. -/
def select (s : Session World) (index : ℕ) : Session World :=
  { s with picker := { s.picker with selected := index } }

/-- The selections after each of a number of presses of one key. -/
def selections (runner : Runner World) (s : Session World) (k : Key) (n : ℕ) : List ℕ :=
  (List.range n).map fun i => (s.pressAll runner (List.replicate (i + 1) k)).picker.selected

@[simp] lemma matchingIndices_select (index : ℕ) :
    (s.select index).picker.matchingIndices = s.picker.matchingIndices := rfl

lemma press_again (hmode : s.picker.mode = .searching) (held : Modifiers) :
    s.press runner (.again held) = s.select s.picker.nextMatch := by
  have hpress : s.picker.press (.again held)
      = ({ s.picker with selected := s.picker.nextMatch }, none) := by
    rw [Picker.press, hmode]
    rfl
  rw [press, hpress]
  rfl

lemma press_back (hmode : s.picker.mode = .searching) (held : Modifiers) :
    s.press runner (.back held) = s.select s.picker.previousMatch := by
  have hpress : s.picker.press (.back held)
      = ({ s.picker with selected := s.picker.previousMatch }, none) := by
    rw [Picker.press, hmode]
    rfl
  rw [press, hpress]
  rfl

/-- **Going on** a number of times leads as many matches further round. -/
theorem pressAll_again (runner : Runner World) (hmode : s.picker.mode = .searching)
    (held : Modifiers) (h : s.picker.matchingIndices[i]? = some s.picker.selected) (n : ℕ) :
    ∃ index, s.picker.matchingIndices[(i + n) % s.picker.matchingIndices.length]? = some index ∧
      s.pressAll runner (List.replicate n (.again held)) = s.select index := by
  induction n generalizing s i with
  | zero =>
      refine ⟨s.picker.selected, ?_, rfl⟩
      rw [Nat.add_zero, Nat.mod_eq_of_lt (List.getElem?_eq_some_iff.mp h).1, h]
  | succ n ih =>
      obtain ⟨index, hindex, hpresses⟩ :=
        ih (s := s.select s.picker.nextMatch) hmode (Picker.getElem?_nextMatch h)
      rw [matchingIndices_select, Nat.mod_add_mod, Nat.add_assoc, Nat.add_comm 1] at hindex
      refine ⟨index, hindex, ?_⟩
      rw [List.replicate_succ, pressAll, List.foldl_cons, press_again hmode]
      exact hpresses

/-- Going back undoes going on. -/
lemma press_again_back (hmode : s.picker.mode = .searching) (held held' : Modifiers)
    (h : s.picker.matchingIndices[i]? = some s.picker.selected) :
    (s.press runner (.again held)).press runner (.back held') = s := by
  have hlt := (List.getElem?_eq_some_iff.mp h).1
  have hround : i + 1 + (s.picker.matchingIndices.length - 1)
      = i + s.picker.matchingIndices.length := by
    omega
  have hback := Picker.getElem?_previousMatch (p := (s.select s.picker.nextMatch).picker)
    (Picker.getElem?_nextMatch h)
  rw [matchingIndices_select, Nat.add_sub_assoc (by omega), Nat.mod_add_mod, hround,
    Nat.add_mod_right, Nat.mod_eq_of_lt hlt, h] at hback
  rw [press_again hmode, press_back (s := s.select s.picker.nextMatch) hmode,
    ← Option.some.inj hback]
  rfl

/-- Going on undoes going back. -/
lemma press_back_again (hmode : s.picker.mode = .searching) (held held' : Modifiers)
    (h : s.picker.matchingIndices[i]? = some s.picker.selected) :
    (s.press runner (.back held')).press runner (.again held) = s := by
  have hlt := (List.getElem?_eq_some_iff.mp h).1
  have hround : i + s.picker.matchingIndices.length - 1 + 1
      = i + s.picker.matchingIndices.length := by
    omega
  have hagain := Picker.getElem?_nextMatch (p := (s.select s.picker.previousMatch).picker)
    (Picker.getElem?_previousMatch h)
  rw [matchingIndices_select, Nat.mod_add_mod, hround, Nat.add_mod_right,
    Nat.mod_eq_of_lt hlt, h] at hagain
  rw [press_back hmode, press_again (s := s.select s.picker.previousMatch) hmode,
    ← Option.some.inj hagain]
  rfl

/-- Going on as often as there are matches selects each of them, from the next one on. -/
lemma selections_again (hmode : s.picker.mode = .searching) (held : Modifiers)
    (h : s.picker.matchingIndices[i]? = some s.picker.selected) :
    s.selections runner (.again held) s.picker.matchingIndices.length
      = s.picker.matchingIndices.rotate (i + 1) := by
  refine List.ext_getElem? fun n => ?_
  rcases Nat.lt_or_ge n s.picker.matchingIndices.length with hn | hn
  · obtain ⟨index, hindex, hpresses⟩ := pressAll_again runner hmode held h (n + 1)
    rw [List.getElem?_rotate hn, Nat.add_left_comm, hindex, selections, List.getElem?_map,
      List.getElem?_range hn, Option.map_some, hpresses]
    rfl
  · rw [List.getElem?_eq_none (by simpa [selections] using hn),
      List.getElem?_eq_none (by simpa using hn)]

/-- Going on as often as there are matches returns to the start. -/
lemma pressAll_again_eq_self (hmode : s.picker.mode = .searching) (held : Modifiers)
    (h : s.picker.matchingIndices[i]? = some s.picker.selected) :
    s.pressAll runner (List.replicate s.picker.matchingIndices.length (.again held)) = s := by
  obtain ⟨index, hindex, hpresses⟩ :=
    pressAll_again runner hmode held h s.picker.matchingIndices.length
  rw [Nat.add_mod_right, Nat.mod_eq_of_lt (List.getElem?_eq_some_iff.mp h).1, h] at hindex
  rw [hpresses, ← Option.some.inj hindex]
  rfl

/-- **A search that goes round its matches**, the selected one being the match at a position. -/
structure GoesRound (runner : Runner World) (s : Session World) (held held' : Modifiers)
    (i : ℕ) : Prop where
  /-- The selected target is the match at the position. -/
  selected : s.picker.matchingIndices[i]? = some s.picker.selected
  /-- `n` selects the next match. -/
  again : s.picker.matchingIndices[(i + 1) % s.picker.matchingIndices.length]?
    = some (s.press runner (.again held)).picker.selected
  /-- `N` selects the previous match. -/
  back : s.picker.matchingIndices[(i + s.picker.matchingIndices.length - 1)
      % s.picker.matchingIndices.length]?
    = some (s.press runner (.back held')).picker.selected
  /-- `N` undoes `n`. -/
  again_back : (s.press runner (.again held)).press runner (.back held') = s
  /-- `n` undoes `N`. -/
  back_again : (s.press runner (.back held')).press runner (.again held) = s
  /-- `n` pressed as often as there are matches selects every match once. -/
  visits : (s.selections runner (.again held) s.picker.matchingIndices.length).Perm
    s.picker.matchingIndices
  /-- It returns to the start. -/
  returns : s.pressAll runner (List.replicate s.picker.matchingIndices.length (.again held)) = s

/-- **While a search is active** `n` and `N` do nothing if there is no match, and otherwise go
round the matches: the indices of the targets that contain the text, in ascending order. -/
theorem search_cycles (runner : Runner World) (choices : List Text) (world : World)
    (keys : List Key) (s : Session World)
    (hs : (start choices world).pressAll runner keys = s)
    (hmode : s.picker.mode = .searching) (held held' : Modifiers) :
    (s.picker.matchingIndices.Pairwise (· < ·) ∧
      ∀ index, index ∈ s.picker.matchingIndices ↔
        ∃ target, choices[index]? = some target ∧ s.picker.buffer <:+: target) ∧
    (s.picker.matchingIndices = [] →
      s.press runner (.again held) = s ∧ s.press runner (.back held') = s) ∧
    (s.picker.matchingIndices ≠ [] → ∃ i, s.GoesRound runner held held' i) := by
  have hchoices : s.picker.choices = choices := by
    rw [← hs, choices_pressAll]
    rfl
  have hcycling : s.picker.Cycling := by
    rw [← hs]
    exact pressAll_induction runner Picker.Cycling (fun p k h => h.press k)
      (fun p output h => ⟨h.selected_lt, h.selected_mem⟩) (Picker.Cycling.ofChoices choices) keys
  refine ⟨⟨s.picker.pairwise_lt_matchingIndices, fun index => ?_⟩, fun hnil => ?_, fun hne => ?_⟩
  · rw [Picker.mem_matchingIndices_iff, hchoices]
  · rw [press_again hmode, press_back hmode, Picker.nextMatch, Picker.previousMatch,
      Picker.firstMatch_eq_selected hnil, Picker.firstMatch_eq_selected hnil]
    exact ⟨rfl, rfl⟩
  · obtain ⟨i, hi⟩ := List.mem_iff_getElem?.mp (hcycling.selected_mem hmode hne)
    exact ⟨i, {
      selected := hi
      again := by rw [press_again hmode]; exact Picker.getElem?_nextMatch hi
      back := by rw [press_back hmode]; exact Picker.getElem?_previousMatch hi
      again_back := press_again_back hmode held held' hi
      back_again := press_back_again hmode held held' hi
      visits := by
        rw [selections_again hmode held hi]
        exact List.rotate_perm _ _
      returns := pressAll_again_eq_self hmode held hi }⟩

/-- Two of five targets contain the text. -/
theorem search_cycles_of_two_matches :
    (pressAll (fun target world => (⟨target, []⟩, world))
      (start ["all".toList, "build".toList, "test".toList, "clean".toList, "build-docs".toList] ())
      ("/bu".toList.map Key.typed ++ [{ code := .enter }])).picker.matchingIndices = [1, 4] ∧
    ∃ i, (pressAll (fun target world => (⟨target, []⟩, world))
      (start ["all".toList, "build".toList, "test".toList, "clean".toList, "build-docs".toList] ())
      ("/bu".toList.map Key.typed ++ [{ code := .enter }])).GoesRound
        (fun target world => (⟨target, []⟩, world)) {} { shift := true } i := by
  refine ⟨by decide +kernel, (search_cycles _ _ () _ _ rfl ?_ {} { shift := true }).2.2 ?_⟩
  · decide +kernel
  · decide +kernel

end Session

end TargetPicker
