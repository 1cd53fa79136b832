import Mathlib.Tactic.Common
import TargetPicker.Proofs.Picker.Selection

/-!
# What decides about a session

A picker is driven by three things: the keys, the targets that it was started with, and what the
targets print when they are run.  They do not reach equally far.

**Keys alone** decide about the mode, about what was typed and about quitting.  `Control` is that
part of a picker.  It has a key function of its own (`Control.press`), which no target and no output
enters, and every picker follows it (`Picker.control_press`).

**Keys and targets** decide about the selection and about what is run.  A picker whose output is
hidden goes on as the same picker does (`Picker.press_hidden`), so an output reaches nothing but the
output that is shown.

Both facts are about one key, and a session is a fold of keys: what every key commutes with, the
whole session does.
-/

namespace TargetPicker

/-! ## The part that keys decide -/

namespace Mode

/-- The mode that a key leads to. -/
def after : Mode → KeyCode → Mode
  | _, .escape => browsing
  | _, .char '/' => enteringSearch
  | enteringSearch, .enter => searching
  | m, _ => m

/-- Three keys lead to another mode, and no other key does. -/
lemma after_eq_self {code : KeyCode} (hescape : code ≠ .escape) (hslash : code ≠ .char '/')
    (henter : code ≠ .enter) (m : Mode) : m.after code = m := by
  unfold after
  split <;> simp_all

/-- A key leads to browsing if it is the escape key, or stays there. -/
lemma after_eq_browsing_iff {m : Mode} {code : KeyCode} :
    m.after code = browsing ↔ code = .escape ∨ m = browsing ∧ code ≠ .char '/' := by
  unfold after
  split <;> simp_all

/-- No character leads away from a search text that is being edited. -/
@[simp] lemma after_enteringSearch_char (c : Char) :
    enteringSearch.after (.char c) = enteringSearch := by
  unfold after
  split <;> simp_all

/-- What stands in the buffer after a key. -/
def edit (buffer : Text) : Mode → KeyCode → Text
  | _, .escape => []
  | browsing, .char c => if c ∈ ['q', 'k', 'j', 'r', '/'] then [] else buffer ++ [c]
  | browsing, code => if code ∈ [.up, .down, .enter] then [] else buffer
  | enteringSearch, .char c => buffer ++ [c]
  | enteringSearch, code => if code = .backspace then buffer.dropLast else buffer
  | searching, code => if code = .char '/' then [] else buffer

/-- Holds if a key quits. -/
def quits (m : Mode) (code : KeyCode) : Bool := m == browsing && code == .char 'q'

end Mode

/-- **What the keys decide alone**: how they are understood, what was typed, and whether to quit. -/
structure Control where
  mode : Mode
  buffer : Text
  shouldQuit : Bool
  deriving DecidableEq, Repr

namespace Control

/-- Before any key. -/
def start : Control := { mode := .browsing, buffer := [], shouldQuit := false }

/-- A key that is not the interrupt. -/
def type (c : Control) (code : KeyCode) : Control :=
  { mode := c.mode.after code
    buffer := c.mode.edit c.buffer code
    shouldQuit := c.shouldQuit || c.mode.quits code }

/-- One key. -/
def press (c : Control) (k : Key) : Control :=
  if k.isInterrupt then { c with shouldQuit := true } else c.type k.code

/-- A sequence of keys. -/
def pressAll (c : Control) (keys : List Key) : Control := keys.foldl press c

/-- A key other than `c` is never the interrupt. -/
lemma press_of_ne (c : Control) {k : Key} (hc : k.code ≠ .char 'c') : c.press k = c.type k.code :=
  if_neg (by simp [Key.isInterrupt, hc])

lemma mode_press (c : Control) (k : Key) : (c.press k).mode = c.mode.after k.code := by
  rw [press]
  split
  · next hinterrupt =>
    rw [Key.code_of_isInterrupt hinterrupt,
      Mode.after_eq_self (by decide) (by decide) (by decide)]
  · rfl

lemma shouldQuit_press (c : Control) (k : Key) :
    (c.press k).shouldQuit = (c.shouldQuit || (k.isInterrupt || c.mode.quits k.code)) := by
  rw [press]
  split
  · next hinterrupt => simp [hinterrupt]
  · next hinterrupt => simp [hinterrupt, type]

lemma pressAll_concat (c : Control) (keys : List Key) (k : Key) :
    c.pressAll (keys ++ [k]) = (c.pressAll keys).press k := by
  rw [pressAll, pressAll, List.foldl_append]
  rfl

end Control

namespace Picker

/-- The part of a picker that keys decide. -/
def control (p : Picker) : Control :=
  { mode := p.mode, buffer := p.buffer, shouldQuit := p.shouldQuit }

lemma control_pressBrowsing {p : Picker} (hmode : p.mode = .browsing) {code : KeyCode}
    (hescape : code ≠ .escape) : (p.pressBrowsing code).1.control = p.control.type code := by
  unfold pressBrowsing
  split <;> simp_all [control, Control.type, clear, push, up, down, Mode.after, Mode.edit,
    Mode.quits]

lemma control_pressEntering {p : Picker} (hmode : p.mode = .enteringSearch) {code : KeyCode}
    (hescape : code ≠ .escape) : (p.pressEntering code).control = p.control.type code := by
  unfold pressEntering
  split <;> simp_all [control, Control.type, push, Mode.edit, Mode.quits]
  all_goals simp_all [Mode.after]

lemma control_pressSearching {p : Picker} (hmode : p.mode = .searching) {code : KeyCode}
    (hescape : code ≠ .escape) : (p.pressSearching code).1.control = p.control.type code := by
  unfold pressSearching
  split <;> simp_all [control, Control.type, clear, Mode.after, Mode.edit, Mode.quits]

/-- **A key acts on the control as the control says**, whatever there is to pick from. -/
theorem control_press (p : Picker) (k : Key) : (p.press k).1.control = p.control.press k := by
  rw [press, Control.press]
  split
  · rfl
  · split
    · next hescape =>
      simp [hescape, control, Control.type, clear, Mode.after, Mode.edit, Mode.quits]
    · next hescape =>
      split
      · next hmode => exact control_pressBrowsing hmode hescape
      · next hmode => exact control_pressEntering hmode hescape
      · next hmode => exact control_pressSearching hmode hescape

/-! ## The part that targets decide -/

/-- A picker that shows no output. -/
def hidden (p : Picker) : Picker := p.withOutput []

/-- **Output reaches nothing but the output**: hidden, a picker goes on as it does otherwise, and it
asks for the same targets. -/
theorem press_hidden (p : Picker) (k : Key) :
    p.hidden.press k = ((p.press k).1.hidden, (p.press k).2) := by
  unfold press
  split
  · rfl
  · split
    · rfl
    · rw [show p.hidden.mode = p.mode from rfl]
      split
      · unfold pressBrowsing
        split <;> rfl
      · unfold pressEntering
        split <;> rfl
      · unfold pressSearching
        split <;> rfl

end Picker

/-! ## Sessions -/

namespace Session

variable {World : Type} (runner : Runner World)

/-- One key acts on the control of a session. -/
lemma control_press (s : Session World) (k : Key) :
    (s.press runner k).picker.control = s.picker.control.press k := by
  rw [← Picker.control_press]
  rcases picker_press runner s k with hpicker | ⟨output, hpicker⟩ <;> rw [hpicker]
  rfl

/-- **Keys alone decide about the control** throughout a session. -/
theorem control_pressAll (s : Session World) (keys : List Key) :
    (s.pressAll runner keys).picker.control = s.picker.control.pressAll keys := by
  have hstep : ∀ (s : Session World) (k : Key),
      s.picker.control.press k = (s.press runner k).picker.control :=
    fun s k => (control_press runner s k).symm
  exact (List.foldl_hom (fun s : Session World => s.picker.control) hstep).symm

/-- What a session has done so far, apart from the output that it shows. -/
def course (s : Session World) : Picker × List Text := (s.picker.hidden, s.runs)

/-- One key, without anything that is run. -/
def pressCourse (c : Picker × List Text) (k : Key) : Picker × List Text :=
  ((c.1.press k).1, c.2 ++ (c.1.press k).2.toList)

lemma course_press (s : Session World) (k : Key) :
    (s.press runner k).course = pressCourse s.course k := by
  rw [pressCourse, course, course, Picker.press_hidden, press]
  rcases s.picker.press k with ⟨picker, _ | target⟩
  · exact Prod.ext rfl (List.append_nil _).symm
  · rfl

/-- **Keys and targets decide about the course** of a session. -/
theorem course_pressAll (s : Session World) (keys : List Key) :
    (s.pressAll runner keys).course = keys.foldl pressCourse s.course := by
  have hstep : ∀ (s : Session World) (k : Key),
      pressCourse s.course k = (s.press runner k).course :=
    fun s k => (course_press runner s k).symm
  exact (List.foldl_hom course hstep).symm

/-- **How far targets and output reach**, in two sessions over the same keys.  Whatever their
targets are and whatever these print, the sessions are in the same mode, with the same text typed,
and quit together.  With the same targets they also select and run the same ones, and the only thing
in which the pickers may differ is the output that they show; so they will run the same target
next.

Lists without targets are included, though no makefile gives one: a machine would stop there at the
first key that moves down or runs (`Picker.press?`). -/
theorem same_keys_same_course {World₁ World₂ : Type} (runner₁ : Runner World₁)
    (runner₂ : Runner World₂) (choices₁ choices₂ : List Text) (world₁ : World₁) (world₂ : World₂)
    (keys : List Key) :
    let s₁ := (start choices₁ world₁).pressAll runner₁ keys
    let s₂ := (start choices₂ world₂).pressAll runner₂ keys
    (s₁.picker.mode = s₂.picker.mode ∧ s₁.picker.buffer = s₂.picker.buffer ∧
      s₁.picker.shouldQuit = s₂.picker.shouldQuit) ∧
    (choices₁ = choices₂ →
      s₁.picker.selected = s₂.picker.selected ∧ s₁.runs = s₂.runs ∧
      s₁.picker = s₂.picker.withOutput s₁.picker.output ∧
      ∀ k, (s₁.picker.press k).2 = (s₂.picker.press k).2) := by
  intro s₁ s₂
  have hcontrol : s₁.picker.control = s₂.picker.control := by
    rw [control_pressAll, control_pressAll]
    rfl
  refine ⟨⟨congrArg Control.mode hcontrol, congrArg Control.buffer hcontrol,
    congrArg Control.shouldQuit hcontrol⟩, ?_⟩
  rintro rfl
  have hcourse : s₁.course = s₂.course := by
    rw [course_pressAll, course_pressAll]
    rfl
  obtain ⟨hhidden, hruns⟩ := Prod.mk.inj hcourse
  have hpicker : s₁.picker = s₂.picker.withOutput s₁.picker.output :=
    calc s₁.picker
        = s₁.picker.hidden.withOutput s₁.picker.output := rfl
      _ = s₂.picker.hidden.withOutput s₁.picker.output := by rw [hhidden]
      _ = s₂.picker.withOutput s₁.picker.output := rfl
  refine ⟨?_, hruns, hpicker, fun k => ?_⟩
  · show s₁.picker.hidden.selected = s₂.picker.hidden.selected
    rw [hhidden]
  · have hnext : s₁.picker.hidden.press k = s₂.picker.hidden.press k := by rw [hhidden]
    rw [Picker.press_hidden, Picker.press_hidden] at hnext
    exact (Prod.mk.inj hnext).2

/-- One runner repeats the name of the target, the other counts its calls and prints what looks like
a selected target. -/
theorem same_keys_same_course_of_two_printers :
    let runner₁ : Runner Unit := fun target world => (⟨target, []⟩, world)
    let runner₂ : Runner ℕ := fun _ calls => (⟨"> all\n".toList, []⟩, calls + 1)
    let choices := ["all".toList, "lib".toList, "clean".toList]
    let keys := [.typed 'j', { code := .enter }] ++ "/l".toList.map Key.typed ++
      [{ code := .enter }, .typed 'n', { code := .enter }]
    let s₁ := (start choices ()).pressAll runner₁ keys
    let s₂ := (start choices 0).pressAll runner₂ keys
    s₁.runs = ["lib".toList, "all".toList] ∧ s₁.picker.output ≠ s₂.picker.output ∧
      s₁.picker.selected = s₂.picker.selected ∧ s₁.runs = s₂.runs ∧
      s₁.picker = s₂.picker.withOutput s₁.picker.output := by
  intro runner₁ runner₂ choices keys s₁ s₂
  obtain ⟨hselected, hruns, hpicker, -⟩ :=
    (same_keys_same_course runner₁ runner₂ choices choices () 0 keys).2 rfl
  exact ⟨by decide +kernel, by decide +kernel, hselected, hruns, hpicker⟩

end Session

end TargetPicker
