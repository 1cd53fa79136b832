import Mathlib.Data.List.DropRight
import Mathlib.Tactic.Common
import TargetPicker.Proofs.Picker.Control

/-!
# The keys that were pressed

The mode of a picker and its wish to quit are facts about the keys so far, and nothing has to be
replayed to read them off.  The escape key forgets: only the keys behind the last one count
(`Key.sinceEscape`).

**The mode.**  Without a slash among these keys the picker is browsing.  With one, the last of them
that is a slash or the enter key says whether a search text is being edited or searched for
(`Mode.ofSince`).  An enter key before the first slash does not count as such: a later slash is the
last one in any case.

**Quitting.**  Control and `c` quit wherever they are pressed, and `q` quits where no slash stands
between the last escape and it.

Both are inductions from the last key backwards, since that is the key whose effect depends on all
others.
-/

namespace TargetPicker

/-! ## The keys since the last escape -/

/-- The key codes behind the last escape, or all of them if there is none. -/
def Key.sinceEscape (keys : List Key) : List KeyCode :=
  (keys.map Key.code).rtakeWhile fun code => code != .escape

namespace Key

lemma sinceEscape_concat_escape (keys : List Key) {k : Key} (h : k.code = .escape) :
    sinceEscape (keys ++ [k]) = [] := by
  rw [sinceEscape, List.map_append, List.map_singleton,
    List.rtakeWhile_concat_neg _ _ _ (by simp [h])]

lemma sinceEscape_concat (keys : List Key) {k : Key} (h : k.code ≠ .escape) :
    sinceEscape (keys ++ [k]) = sinceEscape keys ++ [k.code] := by
  rw [sinceEscape, List.map_append, List.map_singleton,
    List.rtakeWhile_concat_pos _ _ _ (by simp [h])]
  rfl

end Key

/-! ## The mode -/

/-- The keys that change the mode while or after a search text is edited. -/
def KeyCode.isSwitch (code : KeyCode) : Bool := code == .char '/' || code == .enter

/-- The last key that is a slash or the enter key. -/
def KeyCode.lastSwitch? (codes : List KeyCode) : Option KeyCode :=
  (codes.filter KeyCode.isSwitch).getLast?

namespace KeyCode

lemma lastSwitch?_concat (codes : List KeyCode) (code : KeyCode) :
    lastSwitch? (codes ++ [code]) = if code.isSwitch then some code else lastSwitch? codes := by
  rw [lastSwitch?, List.filter_append]
  cases h : code.isSwitch <;> simp [h, lastSwitch?]

/-- Where a slash is, there is a last switch. -/
lemma lastSwitch?_eq_of_slash {codes : List KeyCode} (h : .char '/' ∈ codes) :
    lastSwitch? codes = some (.char '/') ∨ lastSwitch? codes = some .enter := by
  have hne : codes.filter isSwitch ≠ [] :=
    List.ne_nil_of_mem (List.mem_filter.mpr ⟨h, by decide⟩)
  have hlast : lastSwitch? codes = some ((codes.filter isSwitch).getLast hne) :=
    List.getLast?_eq_some_getLast hne
  have hswitch := (List.mem_filter.mp (List.getLast_mem hne)).2
  simp only [isSwitch, Bool.or_eq_true, beq_iff_eq] at hswitch
  rw [hlast, Option.some.injEq, Option.some.injEq]
  exact hswitch

end KeyCode

namespace Mode

/-- **The mode that keys lead to**, if none of them is the escape key. -/
def ofSince (codes : List KeyCode) : Mode :=
  if .char '/' ∈ codes then
    if KeyCode.lastSwitch? codes = some .enter then searching else enteringSearch
  else browsing

lemma ofSince_concat (codes : List KeyCode) {code : KeyCode} (h : code ≠ .escape) :
    ofSince (codes ++ [code]) = (ofSince codes).after code := by
  rw [ofSince, ofSince, KeyCode.lastSwitch?_concat]
  rcases eq_or_ne code (.char '/') with rfl | hslash
  · simp [KeyCode.isSwitch, after]
  · have hmem : .char '/' ∈ codes ++ [code] ↔ .char '/' ∈ codes := by
      simp [Ne.symm hslash]
    simp only [hmem]
    rcases eq_or_ne code .enter with rfl | henter
    · by_cases hslash : .char '/' ∈ codes
      · by_cases hlast : KeyCode.lastSwitch? codes = some .enter <;>
          simp [KeyCode.isSwitch, after, hslash, hlast]
      · simp [after, hslash]
    · have hswitch : code.isSwitch = false := by simp [KeyCode.isSwitch, hslash, henter]
      rw [after_eq_self h hslash henter, hswitch]
      rfl

variable {codes : List KeyCode}

lemma ofSince_eq_browsing_iff : ofSince codes = browsing ↔ .char '/' ∉ codes := by
  unfold ofSince
  split_ifs <;> simp_all

lemma ofSince_eq_enteringSearch_iff :
    ofSince codes = enteringSearch ↔
      .char '/' ∈ codes ∧ KeyCode.lastSwitch? codes = some (.char '/') := by
  unfold ofSince
  split_ifs with hslash hlast
  · simp [hlast]
  · simp [hslash, (KeyCode.lastSwitch?_eq_of_slash hslash).resolve_right hlast]
  · simp [hslash]

lemma ofSince_eq_searching_iff :
    ofSince codes = searching ↔
      .char '/' ∈ codes ∧ KeyCode.lastSwitch? codes = some .enter := by
  unfold ofSince
  split_ifs <;> simp_all

end Mode

namespace Control

/-- **The mode** is that of the keys since the last escape. -/
theorem mode_pressAll_start (keys : List Key) :
    (start.pressAll keys).mode = Mode.ofSince (Key.sinceEscape keys) := by
  induction keys using List.reverseRecOn with
  | nil => rfl
  | append_singleton keys k ih =>
      rw [pressAll_concat, mode_press, ih]
      rcases eq_or_ne k.code .escape with hescape | hescape
      · rw [Key.sinceEscape_concat_escape keys hescape, hescape]
        rfl
      · rw [Key.sinceEscape_concat keys hescape, Mode.ofSince_concat _ hescape]

/-- **Quitting** is asked for by a key that was pressed. -/
theorem shouldQuit_pressAll_start (keys : List Key) :
    (start.pressAll keys).shouldQuit = true ↔
      ∃ before k after, keys = before ++ k :: after ∧
        (k.isInterrupt = true ∨
          (.char '/' ∉ Key.sinceEscape before ∧ k.code = .char 'q')) := by
  induction keys using List.reverseRecOn with
  | nil => simp [pressAll, start]
  | append_singleton keys k ih =>
      have hlast : (start.pressAll (keys ++ [k])).shouldQuit = true ↔
          (start.pressAll keys).shouldQuit = true ∨ (k.isInterrupt = true ∨
            (.char '/' ∉ Key.sinceEscape keys ∧ k.code = .char 'q')) := by
        rw [pressAll_concat, shouldQuit_press, mode_pressAll_start, Mode.quits,
          ← Mode.ofSince_eq_browsing_iff]
        simp only [Bool.or_eq_true, Bool.and_eq_true, beq_iff_eq]
      rw [hlast, ih]
      constructor
      · rintro (⟨before, x, after, rfl, hx⟩ | hk)
        · exact ⟨before, x, after ++ [k], by simp, hx⟩
        · exact ⟨keys, k, [], rfl, hk⟩
      · rintro ⟨before, x, after, hkeys, hx⟩
        rcases List.eq_nil_or_concat' after with rfl | ⟨after, y, rfl⟩
        · obtain ⟨rfl, rfl⟩ := List.append_singleton_inj.mp hkeys
          exact Or.inr hx
        · rw [← List.cons_append, ← List.append_assoc] at hkeys
          obtain ⟨rfl, -⟩ := List.append_singleton_inj.mp hkeys
          exact Or.inl ⟨before, x, after, rfl, hx⟩

lemma shouldQuit_pressAll {c : Control} (h : c.shouldQuit = true) (keys : List Key) :
    (c.pressAll keys).shouldQuit = true := by
  induction keys generalizing c with
  | nil => exact h
  | cons k keys ih => exact ih (by rw [shouldQuit_press, h, Bool.true_or])

/-- While there is a search `q` is text, or means nothing. -/
lemma shouldQuit_press_of_q {c : Control} (hmode : c.mode ≠ .browsing) {k : Key}
    (hq : k.code = .char 'q') : (c.press k).shouldQuit = c.shouldQuit := by
  rw [shouldQuit_press]
  simp [Key.isInterrupt, Mode.quits, hq, hmode]

end Control

/-! ## Sessions -/

namespace Session

variable {World : Type}

/-- **A session whose mode and whose wish to quit can be read off the keys** that led to it. -/
structure FollowsKeys (runner : Runner World) (keys : List Key) (s : Session World) : Prop where
  /-- It is browsing if no slash was pressed since the last escape. -/
  browsing : s.picker.mode = .browsing ↔ .char '/' ∉ Key.sinceEscape keys
  /-- Otherwise a search text is being edited if the last slash or enter key is a slash. -/
  enteringSearch : s.picker.mode = .enteringSearch ↔ .char '/' ∈ Key.sinceEscape keys ∧
    KeyCode.lastSwitch? (Key.sinceEscape keys) = some (.char '/')
  /-- A search is active if it is the enter key. -/
  searching : s.picker.mode = .searching ↔ .char '/' ∈ Key.sinceEscape keys ∧
    KeyCode.lastSwitch? (Key.sinceEscape keys) = some .enter
  /-- It wants to quit if it was interrupted, or if `q` was pressed with no slash between the last
  escape and it. -/
  quit : s.picker.shouldQuit = true ↔ (∃ k ∈ keys, k.isInterrupt = true) ∨
    ∃ before k after, keys = before ++ k :: after ∧ .char '/' ∉ Key.sinceEscape before ∧
      k.code = .char 'q'
  /-- It goes on wanting to, whatever is pressed. -/
  quit_stays : s.picker.shouldQuit = true →
    ∀ more, (s.pressAll runner more).picker.shouldQuit = true
  /-- Where a search text is edited or searched for, `q` changes nothing about that. -/
  searching_q : .char '/' ∈ Key.sinceEscape keys → ∀ k : Key, k.code = .char 'q' →
    (s.press runner k).picker.shouldQuit = s.picker.shouldQuit

/-- **The keys that were pressed say it all**: the mode and the wish to quit of every session,
whatever the targets are and whatever they do when they are run.

There may be no targets at all here.  No makefile starts such a session, and on a machine it would
stop at the first key that moves down or runs (`Picker.press?`). -/
theorem start_followsKeys (runner : Runner World) (choices : List Text) (world : World)
    (keys : List Key) :
    ((start choices world).pressAll runner keys).FollowsKeys runner keys := by
  set s := (start choices world).pressAll runner keys
  have hcontrol : s.picker.control = Control.start.pressAll keys := control_pressAll runner _ keys
  have hmode : s.picker.mode = Mode.ofSince (Key.sinceEscape keys) :=
    (congrArg Control.mode hcontrol).trans (Control.mode_pressAll_start keys)
  have hquit : s.picker.shouldQuit = (Control.start.pressAll keys).shouldQuit :=
    congrArg Control.shouldQuit hcontrol
  exact {
    browsing := by rw [hmode, Mode.ofSince_eq_browsing_iff]
    enteringSearch := by rw [hmode, Mode.ofSince_eq_enteringSearch_iff]
    searching := by rw [hmode, Mode.ofSince_eq_searching_iff]
    quit := by
      rw [hquit, Control.shouldQuit_pressAll_start]
      constructor
      · rintro ⟨before, k, after, rfl, hinterrupt | hq⟩
        · exact Or.inl ⟨k, by simp, hinterrupt⟩
        · exact Or.inr ⟨before, k, after, rfl, hq⟩
      · rintro (⟨k, hmem, hinterrupt⟩ | ⟨before, k, after, rfl, hq⟩)
        · obtain ⟨before, after, rfl⟩ := List.append_of_mem hmem
          exact ⟨before, k, after, rfl, Or.inl hinterrupt⟩
        · exact ⟨before, k, after, rfl, Or.inr hq⟩
    quit_stays := by
      intro hs more
      have hmore := congrArg Control.shouldQuit (control_pressAll runner s more)
      exact hmore.trans (Control.shouldQuit_pressAll hs more)
    searching_q := by
      intro hslash k hq
      have hpress := congrArg Control.shouldQuit (control_press runner s k)
      refine hpress.trans (Control.shouldQuit_press_of_q ?_ hq)
      show s.picker.mode ≠ .browsing
      rw [hmode, Ne, Mode.ofSince_eq_browsing_iff]
      exact not_not.mpr hslash }

end Session

end TargetPicker
