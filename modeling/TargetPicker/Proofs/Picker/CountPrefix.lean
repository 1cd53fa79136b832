import Mathlib.Tactic.Common
import TargetPicker.Proofs.Picker.SearchCycle

/-!
# Moving by a count

While browsing, digits are collected, and the next motion is repeated as often as they say.  The
selection stops at the first and at the last target, whatever the count is
(`Session.moves_by_count`).

**One word is the limit.**  A number that does not fit into a machine word is no count
(`Count.ofText_digits`), and the motion is made once, as it is without any digits.  So a greater
count leads at least as far as a smaller one only among the counts that fit.
-/

namespace TargetPicker

/-- Digits have no sign. -/
lemma Count.unsigned_digits {digits : Text} (hdigits : ∀ c ∈ digits, c.isDigit = true) :
    unsigned digits = digits := by
  unfold unsigned
  split
  · exact absurd (hdigits '+' List.mem_cons_self) (by decide)
  · rfl

/-- **Digits count as their value** if it fits into a word, and as one otherwise. -/
theorem Count.ofText_digits {digits : Text} (hne : digits ≠ [])
    (hdigits : ∀ c ∈ digits, c.isDigit = true) :
    ofText digits = if value digits < limit then value digits else 1 := by
  have hnonempty : Text.nonempty digits = true := by simpa [Text.nonempty] using hne
  have hall : digits.all Char.isDigit = true := List.all_eq_true.mpr hdigits
  rw [ofText, ofText?, unsigned_digits hdigits, hnonempty, hall]
  by_cases hlimit : value digits < limit <;> simp [hlimit]

/-! ## Keys -/

/-- **Keys that type a number** in decimal digits, whatever is held down with them. -/
structure Key.TypeNumber (typed : List Key) (digits : Text) : Prop where
  nonempty : digits ≠ []
  isDigit : ∀ c ∈ digits, c.isDigit = true
  codes : typed.map Key.code = digits.map KeyCode.char

/-- A key that moves down. -/
def Key.IsDown (k : Key) : Prop := k.code = .down ∨ k.code = .char 'j'

/-- A key that moves up. -/
def Key.IsUp (k : Key) : Prop := k.code = .up ∨ k.code = .char 'k'

namespace Picker

variable {p : Picker} {k : Key}

/-- A key other than escape, control and `c` acts as its code does while browsing. -/
lemma press_of_browsing (hmode : p.mode = .browsing) (hescape : k.code ≠ .escape)
    (hc : k.code ≠ .char 'c') : p.press k = p.pressBrowsing k.code := by
  have hinterrupt : k.isInterrupt = false := by simp [Key.isInterrupt, hc]
  rw [press, hinterrupt, if_neg Bool.false_ne_true, if_neg hescape, hmode]

/-- A digit is collected. -/
lemma press_digit (hmode : p.mode = .browsing) {c : Char} (hc : c.isDigit = true)
    (hk : k.code = .char c) : p.press k = (p.push c, none) := by
  have hnone : (['c', 'q', 'k', 'j', 'r', '/'].all fun letter => !letter.isDigit) = true := by
    decide
  have hne : ∀ letter ∈ ['c', 'q', 'k', 'j', 'r', '/'], c ≠ letter := by
    rintro letter hletter rfl
    have hletter := List.all_eq_true.mp hnone c hletter
    rw [hc] at hletter
    cases hletter
  simp only [List.forall_mem_cons] at hne
  rw [press_of_browsing hmode (by simp [hk]) (by simp [hk, hne]), hk]
  unfold pressBrowsing
  split <;> simp_all

/-- A motion down goes by the count. -/
lemma press_isDown (hmode : p.mode = .browsing) (hk : k.IsDown) :
    p.press k = ((p.down (Count.ofText p.buffer)).clear, none) := by
  rcases hk with hk | hk
  all_goals
    rw [press_of_browsing hmode (by simp [hk]) (by simp [hk]), hk]
    rfl

/-- A motion up goes by the count. -/
lemma press_isUp (hmode : p.mode = .browsing) (hk : k.IsUp) :
    p.press k = ((p.up (Count.ofText p.buffer)).clear, none) := by
  rcases hk with hk | hk
  all_goals
    rw [press_of_browsing hmode (by simp [hk]) (by simp [hk]), hk]
    rfl

end Picker

/-! ## Sessions -/

namespace Session

variable {World : Type} {runner : Runner World} {s : Session World} {digits : Text}
  {typed : List Key}

/-- The session with something in the buffer. -/
def withBuffer (s : Session World) (buffer : Text) : Session World :=
  { s with picker := { s.picker with buffer } }

lemma withBuffer_eq_self {buffer : Text} (h : s.picker.buffer = buffer) :
    s.withBuffer buffer = s := by
  subst h
  rfl

/-- A motion down forgets the count that it goes by. -/
lemma press_isDown (hmode : s.picker.mode = .browsing) {k : Key} (hk : k.IsDown) :
    s.press runner k = (s.withBuffer []).select
      (min (s.picker.choices.length - 1) (s.picker.selected + Count.ofText s.picker.buffer)) := by
  rw [press, Picker.press_isDown hmode hk]
  rfl

/-- A motion up forgets the count that it goes by. -/
lemma press_isUp (hmode : s.picker.mode = .browsing) {k : Key} (hk : k.IsUp) :
    s.press runner k = (s.withBuffer []).select
      ((s.picker.selected : ℤ) - Count.ofText s.picker.buffer).toNat := by
  rw [press, Picker.press_isUp hmode hk, Int.toNat_sub]
  rfl

/-- **Digits are collected** one after the other, and nothing else changes. -/
lemma pressAll_digits (hmode : s.picker.mode = .browsing)
    (hdigits : ∀ c ∈ digits, c.isDigit = true)
    (hcodes : typed.map Key.code = digits.map KeyCode.char) :
    s.pressAll runner typed = s.withBuffer (s.picker.buffer ++ digits) := by
  induction digits generalizing s typed with
  | nil =>
      obtain rfl : typed = [] := by simpa using hcodes
      rw [List.append_nil]
      rfl
  | cons c digits ih =>
      obtain ⟨k, typed, rfl⟩ : ∃ k rest, typed = k :: rest :=
        List.exists_cons_of_ne_nil (by rintro rfl; cases hcodes)
      obtain ⟨hk, hrest⟩ := List.cons.inj hcodes
      rw [List.forall_mem_cons] at hdigits
      have hpress : s.press runner k = s.withBuffer (s.picker.buffer ++ [c]) := by
        rw [press, Picker.press_digit hmode hdigits.1 hk]
        rfl
      rw [pressAll, List.foldl_cons, hpress, ← pressAll,
        ih (s := s.withBuffer (s.picker.buffer ++ [c])) hmode hdigits.2 hrest]
      simp [withBuffer]

/-- **A number moves the selection** by a count: as far as there are targets, and nothing else is
changed by it. -/
structure MovesBy (runner : Runner World) (s : Session World) (typed : List Key) (count : ℕ) :
    Prop where
  /-- Down, at most to the last target. -/
  down : ∀ k : Key, k.IsDown → s.pressAll runner (typed ++ [k])
    = s.select (min (s.picker.choices.length - 1) (s.picker.selected + count))
  /-- Up, at most to the first target. -/
  up : ∀ k : Key, k.IsUp → s.pressAll runner (typed ++ [k])
    = s.select ((s.picker.selected : ℤ) - count).toNat

/-- Digits move by what they count as. -/
lemma movesBy_ofText (hmode : s.picker.mode = .browsing) (hbuffer : s.picker.buffer = [])
    (h : Key.TypeNumber typed digits) : s.MovesBy runner typed (Count.ofText digits) := by
  have htyped : s.pressAll runner typed = s.withBuffer digits := by
    rw [pressAll_digits hmode h.isDigit h.codes, hbuffer, List.nil_append]
  constructor
  · intro k hk
    rw [pressAll_concat, htyped, press_isDown (by exact hmode) hk]
    exact congrArg (fun t : Session World => t.select _) (withBuffer_eq_self hbuffer)
  · intro k hk
    rw [pressAll_concat, htyped, press_isUp (by exact hmode) hk]
    exact congrArg (fun t : Session World => t.select _) (withBuffer_eq_self hbuffer)

/-- **Motions go by the count in front of them**, wherever a session is browsing and nothing has
been typed yet.  The count is the number that was typed, or one if that does not fit into a word.
Of two numbers that fit the greater one leads at least as far. -/
theorem moves_by_count (runner : Runner World) (s : Session World)
    (hmode : s.picker.mode = .browsing) (hbuffer : s.picker.buffer = []) (typed : List Key)
    (digits : Text) (h : Key.TypeNumber typed digits) :
    s.MovesBy runner typed (if Count.value digits < Count.limit then Count.value digits else 1) ∧
    ∀ typed' digits', Key.TypeNumber typed' digits' →
      Count.value digits ≤ Count.value digits' → Count.value digits' < Count.limit →
      ∀ k : Key,
        (k.IsDown → (s.pressAll runner (typed ++ [k])).picker.selected
          ≤ (s.pressAll runner (typed' ++ [k])).picker.selected) ∧
        (k.IsUp → (s.pressAll runner (typed' ++ [k])).picker.selected
          ≤ (s.pressAll runner (typed ++ [k])).picker.selected) := by
  have hmoves : s.MovesBy runner typed _ := movesBy_ofText hmode hbuffer h
  rw [Count.ofText_digits h.nonempty h.isDigit] at hmoves
  refine ⟨hmoves, fun typed' digits' h' hle hlimit k => ?_⟩
  have hmoves' : s.MovesBy runner typed' _ := movesBy_ofText hmode hbuffer h'
  rw [Count.ofText_digits h'.nonempty h'.isDigit, if_pos hlimit] at hmoves'
  rw [if_pos (hle.trans_lt hlimit)] at hmoves
  constructor
  · intro hk
    rw [hmoves.down k hk, hmoves'.down k hk]
    simp only [select]
    omega
  · intro hk
    rw [hmoves.up k hk, hmoves'.up k hk]
    simp only [select]
    omega

/-- A number that fits into a word, with one that does not fit: this one moves by one target. -/
theorem moves_by_count_beyond_word :
    let runner : Runner Unit := fun target world => (⟨target, []⟩, world)
    let s := start ["all".toList, "build".toList, "test".toList] ()
    s.pressAll runner ("2j".toList.map Key.typed) = s.select 2 ∧
      s.pressAll runner ("18446744073709551616j".toList.map Key.typed) = s.select 1 := by
  intro runner s
  have hsmall : Key.TypeNumber ("2".toList.map Key.typed) "2".toList :=
    ⟨by decide, List.all_eq_true.mp (by decide), by decide⟩
  have hgreat : Key.TypeNumber ("18446744073709551616".toList.map Key.typed)
      "18446744073709551616".toList :=
    ⟨by decide, List.all_eq_true.mp (by decide), by decide⟩
  have hj : (Key.typed 'j').IsDown := Or.inr rfl
  exact ⟨(moves_by_count runner s rfl rfl _ _ hsmall).1.down _ hj,
    (moves_by_count runner s rfl rfl _ _ hgreat).1.down _ hj⟩

end Session

end TargetPicker
