import Mathlib.Data.List.DropRight
import Mathlib.Tactic.Common
import TargetPicker.Proofs.Picker.Control
import TargetPicker.Proofs.Picker.CountPrefix

/-!
# What stands in front of a motion

While browsing, characters without a meaning of their own are collected, and every key with a
meaning forgets them, whether it has used them or not.  So what is collected can be read off the
keys (`Key.countText`): the characters typed since the last key that resets.  There is no search
among these keys, since a search is left by the escape key, and that one resets as well.

**What counts.**  A text that is no number counts as one (`Count.ofText_of_not_isNumber`).  A number
counts alike with and without a plus sign and zeros in front (`Count.ofText_eq_of_writes`), even if
it does not fit into a word.  Both reach the motions through what the text counts as
(`Session.motion_goes_by_text`).
-/

namespace TargetPicker

/-! ## Numbers -/

namespace Count

variable {t digits : Text}

/-- Decimal digits, one at least. -/
structure Digits (digits : Text) : Prop where
  nonempty : digits ≠ []
  isDigit : ∀ c ∈ digits, c.isDigit = true

/-- **A number in decimal**: digits, with at most one plus sign in front. -/
def IsNumber (t : Text) : Prop := ∃ digits, Digits digits ∧ (t = digits ∨ t = '+' :: digits)

/-- A text made of digits with zeros in front of them, and at most one plus sign in front of all. -/
def Writes (t digits : Text) : Prop :=
  ∃ zeros, (∀ c ∈ zeros, c = '0') ∧ (t = zeros ++ digits ∨ t = '+' :: (zeros ++ digits))

/-- **Whatever is no number counts as one.** -/
theorem ofText_of_not_isNumber (h : ¬ IsNumber t) : ofText t = 1 := by
  have hsign : t = unsigned t ∨ t = '+' :: unsigned t := by
    unfold unsigned
    split
    · exact Or.inr rfl
    · exact Or.inl rfl
  rw [ofText, ofText?]
  split
  · next hnumber =>
    simp only [Text.nonempty, Bool.and_eq_true, Bool.not_eq_true', List.isEmpty_eq_false_iff,
      List.all_eq_true] at hnumber
    exact absurd ⟨unsigned t, ⟨hnumber.1.1, hnumber.1.2⟩, hsign⟩ h
  · rfl

/-- Zeros in front of digits are digits too. -/
lemma Digits.zeros_append {zeros : Text} (hzeros : ∀ c ∈ zeros, c = '0') (h : Digits digits) :
    Digits (zeros ++ digits) where
  nonempty := List.append_ne_nil_of_right_ne_nil _ h.nonempty
  isDigit := by
    intro c hc
    rcases List.mem_append.mp hc with hzero | hdigit
    · rw [hzeros c hzero]
      decide
    · exact h.isDigit c hdigit

lemma value_zeros_append {zeros : Text} (hzeros : ∀ c ∈ zeros, c = '0') :
    value (zeros ++ digits) = value digits := by
  induction zeros with
  | nil => rfl
  | cons c zeros ih =>
      rw [List.forall_mem_cons] at hzeros
      rw [← ih hzeros.2, hzeros.1]
      rfl

lemma ofText_plus (h : Digits digits) : ofText ('+' :: digits) = ofText digits := by
  rw [ofText, ofText?, ofText, ofText?, unsigned_digits h.isDigit]
  rfl

/-- **A plus sign and zeros** in front of digits do not count. -/
theorem ofText_eq_of_writes (h : Digits digits) (ht : Writes t digits) :
    ofText t = ofText digits := by
  obtain ⟨zeros, hzeros, hsign⟩ := ht
  have hall : Digits (zeros ++ digits) := h.zeros_append hzeros
  have hvalue : ofText (zeros ++ digits) = ofText digits := by
    rw [ofText_digits hall.nonempty hall.isDigit, ofText_digits h.nonempty h.isDigit,
      value_zeros_append hzeros]
  rcases hsign with rfl | rfl
  · exact hvalue
  · rw [ofText_plus hall, hvalue]

end Count

/-! ## The characters that are collected -/

namespace Key

/-- Holds of the keys that forget what was collected. -/
def resets (k : Key) : Bool :=
  [.escape, .up, .down, .enter, .char 'q', .char 'j', .char 'k', .char 'r'].contains k.code

/-- The character that a key types, whatever is held down with it. -/
def char? (k : Key) : Option Char :=
  if k.isInterrupt then none
  else match k.code with
    | .char c => some c
    | _ => none

/-- The keys behind the last one that resets, or all of them if there is none. -/
def sinceReset (keys : List Key) : List Key := keys.rtakeWhile fun k => !k.resets

/-- **The characters typed since the last key that resets.** -/
def countText (keys : List Key) : Text := (sinceReset keys).filterMap char?

lemma countText_concat (keys : List Key) (k : Key) :
    countText (keys ++ [k]) = if k.resets then [] else countText keys ++ k.char?.toList := by
  rw [countText, sinceReset]
  cases h : k.resets with
  | true =>
      rw [List.rtakeWhile_concat_neg _ _ _ (by simp [h])]
      rfl
  | false =>
      rw [List.rtakeWhile_concat_pos _ _ _ (by simp [h]), List.filterMap_append]
      cases hchar : k.char? <;> simp [countText, sinceReset, hchar]

lemma mem_char? {k : Key} {c : Char} (h : c ∈ k.char?) : k.code = .char c := by
  unfold char? at h
  split at h
  · cases h
  · split at h
    · next hcode =>
      rw [hcode, Option.mem_some.mp h]
    · cases h

end Key

namespace Control

variable {c : Control} {k : Key}

lemma buffer_press_escape (hescape : k.code = .escape) : (c.press k).buffer = [] := by
  rw [press_of_ne c (by simp [hescape]), type, hescape]
  rfl

/-- While browsing, a key that does not reset appends its character, if it has one. -/
lemma buffer_press_browsing (hmode : c.mode = .browsing) (hslash : k.code ≠ .char '/') :
    (c.press k).buffer = if k.resets then [] else c.buffer ++ k.char?.toList := by
  rw [press]
  split
  · next hinterrupt =>
    have hresets : k.resets = false := by simp [Key.resets, Key.code_of_isInterrupt hinterrupt]
    simp [hresets, Key.char?, hinterrupt]
  · next hinterrupt =>
    simp only [type, hmode, Key.resets, Key.char?, hinterrupt]
    cases hcode : k.code with
    | char d =>
        have hd : d ≠ '/' := fun h => hslash (h ▸ hcode)
        simp [Mode.edit, hd, or_comm, or_left_comm]
    | _ => simp [Mode.edit]

/-- **What is collected** was typed since the last key that resets, and is no command. -/
theorem buffer_pressAll_start (keys : List Key) (hmode : (start.pressAll keys).mode = .browsing) :
    (start.pressAll keys).buffer = Key.countText keys ∧
      ∀ d ∈ (start.pressAll keys).buffer, d ∉ ['q', 'j', 'k', 'r', '/'] := by
  induction keys using List.reverseRecOn with
  | nil => exact ⟨rfl, fun d hd => absurd hd List.not_mem_nil⟩
  | append_singleton keys k ih =>
      rw [pressAll_concat] at hmode ⊢
      rw [mode_press, Mode.after_eq_browsing_iff] at hmode
      rcases hmode with hescape | ⟨hbefore, hslash⟩
      · have hresets : k.resets = true := by simp [Key.resets, hescape]
        rw [buffer_press_escape hescape, Key.countText_concat, hresets]
        exact ⟨rfl, fun d hd => absurd hd List.not_mem_nil⟩
      · obtain ⟨hbuffer, hplain⟩ := ih hbefore
        rw [buffer_press_browsing hbefore hslash, Key.countText_concat, ← hbuffer]
        refine ⟨rfl, fun d hd => ?_⟩
        cases hresets : k.resets with
        | true => simp [hresets] at hd
        | false =>
            rw [hresets, if_neg Bool.false_ne_true, List.mem_append, Option.mem_toList] at hd
            rcases hd with hd | hd
            · exact hplain d hd
            · -- a character that is collected comes from a key that neither resets nor searches
              have hcode := Key.mem_char? hd
              simp only [Key.resets, hcode] at hresets
              simp_all

end Control

/-! ## Sessions -/

namespace Session

variable {World : Type} {runner : Runner World} {s : Session World} {k : Key}

/-- A key that is no character and does not reset does nothing. -/
lemma press_of_idle (hmode : s.picker.mode = .browsing) (hchar : ∀ c, k.code ≠ .char c)
    (hresets : k.resets = false) : s.press runner k = s := by
  have hpress : s.picker.press k = (s.picker, none) := by
    have hescape : k.code ≠ .escape := by
      intro hescape
      simp [Key.resets, hescape] at hresets
    rw [Picker.press_of_browsing hmode hescape (hchar 'c')]
    unfold Picker.pressBrowsing
    split <;> simp_all [Key.resets]
  rw [press, hpress]

/-- **A motion goes by what was typed**, and by no more of it than what it counts as. -/
lemma press_withBuffer_of_ofText_eq (hmode : s.picker.mode = .browsing)
    (hk : k.IsDown ∨ k.IsUp) {t : Text} (ht : Count.ofText s.picker.buffer = Count.ofText t) :
    s.press runner k = (s.withBuffer t).press runner k := by
  rcases hk with hk | hk
  · rw [press_isDown hmode hk, press_isDown (s := s.withBuffer t) hmode hk, ht]
    rfl
  · rw [press_isUp hmode hk, press_isUp (s := s.withBuffer t) hmode hk, ht]
    rfl

/-- **A session whose motions go by what was typed** in front of them. -/
structure GoesByText (runner : Runner World) (keys : List Key) (s : Session World) : Prop where
  /-- What was typed are the characters since the last key that resets. -/
  buffer : s.picker.buffer = Key.countText keys
  /-- None of them is a command. -/
  no_command : ∀ c ∈ s.picker.buffer, c ∉ ['q', 'j', 'k', 'r', '/']
  /-- Other keys do not matter. -/
  idle : ∀ k : Key, (∀ c, k.code ≠ .char c) → k.resets = false → s.press runner k = s
  /-- Without a number a motion down goes to the next target. -/
  down_once : ¬ Count.IsNumber s.picker.buffer → ∀ k : Key, k.IsDown →
    s.press runner k = (s.withBuffer []).select
      (min (s.picker.choices.length - 1) (s.picker.selected + 1))
  /-- Without a number a motion up goes to the target before. -/
  up_once : ¬ Count.IsNumber s.picker.buffer → ∀ k : Key, k.IsUp →
    s.press runner k = (s.withBuffer []).select ((s.picker.selected : ℤ) - 1).toNat
  /-- Zeros in front of the digits, and the plus sign, may be there or not. -/
  zeros : ∀ digits, Count.Digits digits → Count.Writes s.picker.buffer digits →
    ∀ t, Count.Writes t digits → ∀ k : Key, k.IsDown ∨ k.IsUp →
      s.press runner k = (s.withBuffer t).press runner k

/-- **Motions go by what was typed since the last reset**, wherever a session is browsing.

Without targets, which no makefile gives, a motion down stays where it is; a machine has no last
target to move to and would stop there (`Picker.down?`). -/
theorem motion_goes_by_text (runner : Runner World) (choices : List Text) (world : World)
    (keys : List Key) (s : Session World)
    (hs : (start choices world).pressAll runner keys = s) (hmode : s.picker.mode = .browsing) :
    s.GoesByText runner keys := by
  have hcontrol : s.picker.control = Control.start.pressAll keys := by
    rw [← hs]
    exact control_pressAll runner _ keys
  obtain ⟨hbuffer, hplain⟩ := Control.buffer_pressAll_start keys (by rw [← hcontrol]; exact hmode)
  rw [← hcontrol] at hbuffer hplain
  exact {
    buffer := hbuffer
    no_command := hplain
    idle := fun k hchar hresets => press_of_idle hmode hchar hresets
    down_once := by
      intro hnumber k hk
      rw [press_isDown hmode hk, Count.ofText_of_not_isNumber hnumber]
    up_once := by
      intro hnumber k hk
      rw [press_isUp hmode hk, Count.ofText_of_not_isNumber hnumber]
      rfl
    zeros := by
      intro digits hdigits hwrites t ht k hk
      refine press_withBuffer_of_ofText_eq hmode hk ?_
      rw [Count.ofText_eq_of_writes hdigits hwrites, Count.ofText_eq_of_writes hdigits ht] }

/-- A number with a plus sign and zeros in front moves as its last digit does, and a text that is no
number moves by one. -/
theorem motion_goes_by_text_with_zeros :
    let runner : Runner Unit := fun target world => (⟨target, []⟩, world)
    let choices := ["all".toList, "build".toList, "test".toList, "clean".toList]
    let keys := "5r+00".toList.map Key.typed ++
      [{ code := .left }, .typed '2', { code := .backspace }]
    let s := (start choices ()).pressAll runner keys
    let keys' := "/12".toList.map Key.typed ++ [{ code := .escape }] ++ "2+".toList.map Key.typed
    let s' := (start choices ()).pressAll runner keys'
    s.picker.buffer = "+002".toList ∧ s.GoesByText runner keys ∧
      (s.press runner (.typed 'j')).picker.selected = 2 ∧
      s.press runner (.typed 'j') = (s.withBuffer "2".toList).press runner (.typed 'j') ∧
      s'.picker.buffer = "2+".toList ∧ s'.GoesByText runner keys' ∧
      (s'.press runner (.typed 'j')).picker.selected = 1 := by
  intro runner choices keys s keys' s'
  have hs : s.GoesByText runner keys :=
    motion_goes_by_text runner choices () keys s rfl (by decide +kernel)
  have hs' : s'.GoesByText runner keys' :=
    motion_goes_by_text runner choices () keys' s' rfl (by decide +kernel)
  have hbuffer : s.picker.buffer = "+002".toList := by decide +kernel
  have hbuffer' : s'.picker.buffer = "2+".toList := by decide +kernel
  have hdigits : Count.Digits "2".toList := ⟨by decide, List.all_eq_true.mp (by decide)⟩
  refine ⟨hbuffer, hs, by decide +kernel, ?_, hbuffer', hs', by decide +kernel⟩
  refine hs.zeros "2".toList hdigits ?_ "2".toList ⟨[], by simp, Or.inl rfl⟩ _ ?_
  · rw [hbuffer]
    exact ⟨['0', '0'], by simp, Or.inr rfl⟩
  · exact Or.inl (Or.inr rfl)

end Session

end TargetPicker
