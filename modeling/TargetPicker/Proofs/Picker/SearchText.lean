import Mathlib.Data.List.DropRight
import Mathlib.Tactic.Common
import TargetPicker.Proofs.Picker.Control
import TargetPicker.Proofs.Picker.RunHistory

/-!
# The search text

One buffer holds the count and the search text, and it is emptied wherever the one gives way to the
other.  So the search text is what was typed into it, and nothing else.

**What was typed** is a fold of keys (`Key.edit`): a character is appended, the backspace key takes
the last one away, and other keys do nothing.  `Session.typedKeys` are the keys that were pressed
while the text of the current search was edited, and the text is their fold from the empty one
(`Session.searchIsTyped_pressAll`).  This is an induction from the last key backwards: it opens the
search, edits the text, or leaves it as it is.

**While a text is edited** nothing but the text changes.  `Session.entering` is a session with a
given text, and keys lead from one such session to another (`pressAll_entering`).  It follows that
only the final text counts (`search_text_is_typed`), and that a search that is cancelled has done
nothing (`cancelled_search_does_nothing`).
-/

namespace TargetPicker

/-! ## Keys that edit a text -/

namespace Key

/-- The slash key, whatever is held down with it. -/
def slash (held : Modifiers) : Key := { code := .char '/', modifiers := held }

/-- The escape key, whatever is held down with it. -/
def escape (held : Modifiers) : Key := { code := .escape, modifiers := held }

/-- **What a key makes of a search text.** -/
def edit (text : Text) (k : Key) : Text :=
  if k.isInterrupt then text
  else match k.code with
    | .char c => text ++ [c]
    | .backspace => text.dropLast
    | _ => text

/-- Holds of the keys that neither end a search text nor quit. -/
structure Edits (k : Key) : Prop where
  not_enter : k.code ≠ .enter
  not_escape : k.code ≠ .escape
  not_interrupt : k.isInterrupt = false

instance (k : Key) : Decidable k.Edits :=
  decidable_of_iff (k.code ≠ .enter ∧ k.code ≠ .escape ∧ k.isInterrupt = false)
    ⟨fun h => ⟨h.1, h.2.1, h.2.2⟩, fun h => ⟨h.1, h.2, h.3⟩⟩

lemma edits_typed (c : Char) : (typed c).Edits where
  not_enter := by simp [typed]
  not_escape := by simp [typed]
  not_interrupt := by simp [typed, isInterrupt]

/-- Characters typed one after the other make the text that they are. -/
lemma foldl_edit_typed (text more : Text) : (more.map typed).foldl edit text = text ++ more := by
  induction more generalizing text with
  | nil => exact (List.append_nil text).symm
  | cons c more ih =>
      have hedit : edit text (typed c) = text ++ [c] := by simp [edit, typed, isInterrupt]
      rw [List.map_cons, List.foldl_cons, hedit, ih, List.append_assoc, List.singleton_append]

end Key

/-! ## One key -/

namespace Control

variable {c : Control} {k : Key}

/-- While a search text is edited, a key edits it. -/
lemma buffer_press_enteringSearch (hmode : c.mode = .enteringSearch) (hescape : k.code ≠ .escape) :
    (c.press k).buffer = k.edit c.buffer := by
  rw [press, Key.edit]
  split
  · rfl
  · show c.mode.edit c.buffer k.code = _
    rw [hmode]
    cases hcode : k.code with
    | escape => exact absurd hcode hescape
    | _ => rfl

/-- While a search is active, keys leave its text alone. -/
lemma buffer_press_searching (hmode : c.mode = .searching) (hescape : k.code ≠ .escape)
    (hslash : k.code ≠ .char '/') : (c.press k).buffer = c.buffer := by
  rw [press]
  split
  · rfl
  · show c.mode.edit c.buffer k.code = _
    have hedit : Mode.edit c.buffer .searching k.code
        = if k.code = .char '/' then [] else c.buffer := by
      cases hcode : k.code with
      | escape => exact absurd hcode hescape
      | _ => rfl
    rw [hmode, hedit, if_neg hslash]

/-- A slash forgets what was typed, unless it is part of a search text. -/
lemma buffer_press_slash (hmode : c.mode ≠ .enteringSearch) (hslash : k.code = .char '/') :
    (c.press k).buffer = [] := by
  rw [press_of_ne c (by simp [hslash]), type, hslash]
  cases hcase : c.mode with
  | browsing => rfl
  | enteringSearch => exact absurd hcase hmode
  | searching => rfl

end Control

/-! ## The keys typed into the current search -/

namespace Session

variable {World : Type} {runner : Runner World} {s : Session World}

/-- Holds of a step that opens a search: a slash, unless it is part of a search text. -/
def opensSearch (step : Session World × Key) : Bool :=
  step.1.picker.mode != .enteringSearch && step.2.code == .char '/'

/-- Holds of a step while a search text is edited. -/
def editsText (step : Session World × Key) : Bool := step.1.picker.mode == .enteringSearch

/-- The steps behind the one that opened the current search. -/
def sinceOpening (steps : List (Session World × Key)) : List (Session World × Key) :=
  steps.rtakeWhile fun step => !opensSearch step

/-- **The keys typed into the current search**, those that its text ignores included. -/
def typedKeys (steps : List (Session World × Key)) : List Key :=
  ((sinceOpening steps).filter editsText).map Prod.snd

/-- **A session whose search text is what was typed** at the steps that led to it. -/
structure SearchIsTyped (steps : List (Session World × Key)) (s : Session World) : Prop where
  /-- A search was opened. -/
  opened : ∃ step ∈ steps, opensSearch step = true
  /-- It is the current one: it was not closed again. -/
  stays : ∀ step ∈ sinceOpening steps, step.1.picker.mode ≠ .browsing ∧ step.2.code ≠ .escape
  /-- Its text is what was typed since, from the empty text on. -/
  buffer : s.picker.buffer = (typedKeys steps).foldl Key.edit []

lemma steps_concat (s : Session World) (keys : List Key) (k : Key) :
    s.steps runner (keys ++ [k]) = s.steps runner keys ++ [(s.pressAll runner keys, k)] :=
  stepsOf_concat s keys k

lemma sinceOpening_concat_of_opens {steps : List (Session World × Key)}
    {step : Session World × Key} (h : opensSearch step = true) :
    sinceOpening (steps ++ [step]) = [] :=
  List.rtakeWhile_concat_neg _ _ _ (by simp [h])

lemma sinceOpening_concat {steps : List (Session World × Key)} {step : Session World × Key}
    (h : opensSearch step = false) :
    sinceOpening (steps ++ [step]) = sinceOpening steps ++ [step] :=
  List.rtakeWhile_concat_pos _ _ _ (by simp [h])

/-- The step that opens a search leaves no text. -/
lemma searchIsTyped_of_opens {steps : List (Session World × Key)} {k : Key}
    (h : opensSearch (s, k) = true) :
    SearchIsTyped (steps ++ [(s, k)]) (s.press runner k) where
  opened := ⟨(s, k), by simp, h⟩
  stays := by simp [sinceOpening_concat_of_opens h]
  buffer := by
    simp only [opensSearch, Bool.and_eq_true, bne_iff_ne, beq_iff_eq] at h
    have hbuffer : (s.press runner k).picker.control.buffer = [] := by
      rw [control_press]
      exact Control.buffer_press_slash h.1 h.2
    rw [typedKeys, sinceOpening_concat_of_opens (by simp [opensSearch, h])]
    exact hbuffer

/-- A step that goes on with a search edits its text, or leaves it as it is. -/
lemma SearchIsTyped.press {steps : List (Session World × Key)} {k : Key}
    (hs : SearchIsTyped steps s) (h : opensSearch (s, k) = false)
    (hmode : s.picker.mode ≠ .browsing) (hescape : k.code ≠ .escape) :
    SearchIsTyped (steps ++ [(s, k)]) (s.press runner k) where
  opened := by
    obtain ⟨step, hmem, hopens⟩ := hs.opened
    exact ⟨step, List.mem_append_left _ hmem, hopens⟩
  stays := by
    intro step hstep
    rw [sinceOpening_concat h, List.mem_append, List.mem_singleton] at hstep
    rcases hstep with hbefore | rfl
    · exact hs.stays step hbefore
    · exact ⟨hmode, hescape⟩
  buffer := by
    have hcontrol : (s.press runner k).picker.buffer = (s.picker.control.press k).buffer :=
      congrArg Control.buffer (control_press runner s k)
    rw [hcontrol, typedKeys, sinceOpening_concat h, List.filter_append, List.map_append,
      List.foldl_append, ← typedKeys, ← hs.buffer]
    cases hcase : s.picker.mode with
    | browsing => exact absurd hcase hmode
    | enteringSearch =>
        have hedits : editsText (s, k) = true := by simp [editsText, hcase]
        rw [List.filter_cons_of_pos hedits, List.filter_nil]
        exact Control.buffer_press_enteringSearch hcase hescape
    | searching =>
        have hslash : k.code ≠ .char '/' := by
          simpa [opensSearch, hcase] using h
        have hedits : editsText (s, k) = false := by simp [editsText, hcase]
        rw [List.filter_cons_of_neg (by simp [hedits]), List.filter_nil]
        exact Control.buffer_press_searching hcase hescape hslash

/-- **The search text is what was typed**, wherever a session that began browsing has a search. -/
theorem searchIsTyped_pressAll (hstart : s.picker.mode = .browsing) (keys : List Key)
    (hmode : (s.pressAll runner keys).picker.mode ≠ .browsing) :
    SearchIsTyped (s.steps runner keys) (s.pressAll runner keys) := by
  induction keys using List.reverseRecOn with
  | nil => exact absurd hstart hmode
  | append_singleton keys k ih =>
      rw [pressAll_concat] at hmode ⊢
      rw [steps_concat]
      have hafter : (s.pressAll runner keys).picker.mode.after k.code ≠ .browsing := by
        have hcontrol := congrArg Control.mode (control_press runner (s.pressAll runner keys) k)
        rw [Control.mode_press] at hcontrol
        exact fun h => hmode (hcontrol.trans h)
      rw [Ne, Mode.after_eq_browsing_iff] at hafter
      push Not at hafter
      obtain ⟨hescape, hslash⟩ := hafter
      cases hopens : opensSearch (s.pressAll runner keys, k) with
      | true => exact searchIsTyped_of_opens hopens
      | false =>
          -- from browsing only a slash leads to a search, and that one would open it
          have hbefore : (s.pressAll runner keys).picker.mode ≠ .browsing := by
            intro hbrowsing
            simp [opensSearch, hbrowsing, hslash hbrowsing] at hopens
          exact (ih hbefore).press hopens hbefore hescape

/-! ## Sessions with a text that is edited -/

/-- The session while a search text is edited. -/
def entering (s : Session World) (text : Text) : Session World :=
  { s with picker := { s.picker with mode := .enteringSearch, buffer := text } }

/-- The session without its search, and with nothing typed. -/
def closed (s : Session World) : Session World :=
  { s with picker := { s.picker with mode := .browsing, buffer := [] } }

lemma entering_eq_self (hmode : s.picker.mode = .enteringSearch) :
    s.entering s.picker.buffer = s := by
  rw [entering, ← hmode]

lemma press_slash (hmode : s.picker.mode ≠ .enteringSearch) (held : Modifiers) :
    s.press runner (.slash held) = s.entering [] := by
  have hpress : s.picker.press (.slash held)
      = ({ s.picker with mode := .enteringSearch, buffer := [] }, none) := by
    rw [Picker.press]
    cases hcase : s.picker.mode with
    | browsing => rfl
    | enteringSearch => exact absurd hcase hmode
    | searching => rfl
  rw [press, hpress]
  rfl

lemma press_escape (s : Session World) (held : Modifiers) :
    s.press runner (.escape held) = s.closed := rfl

/-- A key that edits the text does nothing else. -/
lemma press_entering {k : Key} (hk : k.Edits) (text : Text) :
    (s.entering text).press runner k = s.entering (k.edit text) := by
  have hpress : (s.entering text).picker.press k = ((s.entering (k.edit text)).picker, none) := by
    rw [Picker.press, hk.not_interrupt, if_neg Bool.false_ne_true, if_neg hk.not_escape, Key.edit,
      hk.not_interrupt, if_neg Bool.false_ne_true]
    show ((s.entering text).picker.pressEntering k.code, none) = _
    cases hcode : k.code with
    | enter => exact absurd hcode hk.not_enter
    | _ => rfl
  rw [press, hpress]
  rfl

/-- **Keys that edit the text** do nothing else. -/
theorem pressAll_entering {keys : List Key} (hkeys : ∀ k ∈ keys, k.Edits) (text : Text) :
    (s.entering text).pressAll runner keys = s.entering (keys.foldl Key.edit text) := by
  induction keys generalizing text with
  | nil => rfl
  | cons k keys ih =>
      rw [List.forall_mem_cons] at hkeys
      rw [pressAll_cons, press_entering hkeys.1, ih hkeys.2, List.foldl_cons]

/-! ## Whole sessions -/

/-- **The search text is what was typed**, throughout every session.  Wherever there is a search,
its text is that of the keys typed into it, and is shown below the help.  While the search is active,
only a slash and the escape key change the text.  And it does not matter how a text came about: keys
that edit it lead where typing the final text leads.

This is also said of sessions without targets.  No makefile starts one, and on a machine it would
stop at the first key that moves down or runs (`Picker.press?`). -/
theorem search_text_is_typed (runner : Runner World) (choices : List Text) (world : World)
    (keys : List Key) (s : Session World)
    (hs : (start choices world).pressAll runner keys = s) :
    (s.picker.mode ≠ .browsing →
      SearchIsTyped ((start choices world).steps runner keys) s ∧
      s.picker.view[3]? = some [{ text := "Search text:".toList, style := .bold },
        { text := [' '] }, { text := s.picker.buffer }]) ∧
    (s.picker.mode = .searching → ∀ k, k.code ≠ .char '/' → k.code ≠ .escape →
      (s.press runner k).picker.buffer = s.picker.buffer) ∧
    (s.picker.mode ≠ .enteringSearch → ∀ entry, (∀ k ∈ entry, k.Edits) →
      ∀ held held', s.pressAll runner (.slash held :: entry ++ [.enter held'])
        = s.pressAll runner
            (.slash held :: (entry.foldl Key.edit []).map .typed ++ [.enter held'])) := by
  refine ⟨fun hmode => ⟨?_, ?_⟩, fun hmode k hslash hescape => ?_,
    fun hmode entry hentry held held' => ?_⟩
  · subst hs
    exact searchIsTyped_pressAll rfl keys hmode
  · have hsearch : s.picker.mode.isSearch = true := by
      cases hcase : s.picker.mode with
      | browsing => exact absurd hcase hmode
      | enteringSearch | searching => rfl
    rw [Picker.view, Picker.searchLines, if_pos hsearch]
    rfl
  · have hcontrol : (s.press runner k).picker.buffer = (s.picker.control.press k).buffer :=
      congrArg Control.buffer (control_press runner s k)
    rw [hcontrol, Control.buffer_press_searching hmode hescape hslash]
    rfl
  · rw [pressAll_concat, pressAll_concat, pressAll_cons, pressAll_cons, press_slash hmode,
      pressAll_entering hentry, pressAll_entering, Key.foldl_edit_typed, List.nil_append]
    intro k hk
    obtain ⟨c, -, rfl⟩ := List.mem_map.mp hk
    exact Key.edits_typed c

/-- A count and an earlier search come before the search, and its text is edited.  The `n` behind it
goes on to the next match. -/
theorem search_text_is_typed_behind_count :
    let runner : Runner Unit := fun target world => (⟨target, []⟩, world)
    let choices := ["all".toList, "test".toList, "clean".toList, "text".toList]
    let entry := "tx".toList.map Key.typed ++
      [{ code := .backspace }, .typed 'e', { code := .left }]
    let keys := "12/ab".toList.map Key.typed ++ [.enter {}] ++ .slash {} :: entry ++
      [.enter {}, .typed 'n']
    let s := (start choices ()).pressAll runner keys
    s.picker.mode = .searching ∧ s.picker.buffer = "te".toList ∧ s.picker.selected = 3 ∧
      SearchIsTyped ((start choices ()).steps runner keys) s ∧
      s.picker.view[3]? = some [{ text := "Search text:".toList, style := .bold },
        { text := [' '] }, { text := "te".toList }] ∧
      (s.press runner (.typed 'q')).picker.buffer = "te".toList ∧
      s.pressAll runner (.slash {} :: entry ++ [.enter {}])
        = s.pressAll runner ("/te".toList.map Key.typed ++ [.enter {}]) := by
  intro runner choices entry keys s
  have hmode : s.picker.mode = .searching := by decide +kernel
  have hbuffer : s.picker.buffer = "te".toList := by decide +kernel
  have hentry : ∀ k ∈ entry, k.Edits := by decide
  obtain ⟨htyped, hkept, hdirect⟩ := search_text_is_typed runner choices () keys s rfl
  obtain ⟨hsearch, hshown⟩ := htyped (by rw [hmode]; decide)
  refine ⟨hmode, hbuffer, by decide +kernel, hsearch, ?_, ?_, ?_⟩
  · rw [hshown, hbuffer]
  · rw [hkept hmode (.typed 'q') (by decide) (by decide), hbuffer]
  · exact hdirect (by rw [hmode]; decide) entry hentry {} {}

/-- **A search that is cancelled has done nothing**: keys that edit its text, and then the escape
key, lead where the escape key leads by itself.  That is the same session, browsing and with nothing
typed.  The session may be any, also one without targets, which no makefile starts; the keys of an
entry stop no machine. -/
theorem cancelled_search_does_nothing (runner : Runner World) (s : Session World)
    (entry : List Key) (hentry : ∀ k ∈ entry, k.Edits) (held held' : Modifiers) :
    s.press runner (.escape held') = s.closed ∧
    (s.picker.mode ≠ .enteringSearch →
      s.pressAll runner (.slash held :: entry ++ [.escape held'])
        = s.press runner (.escape held')) ∧
    (s.picker.mode = .enteringSearch →
      s.pressAll runner (entry ++ [.escape held']) = s.press runner (.escape held')) := by
  refine ⟨press_escape s held', fun hmode => ?_, fun hmode => ?_⟩
  · rw [pressAll_concat, pressAll_cons, press_slash hmode, pressAll_entering hentry, press_escape,
      press_escape]
    rfl
  · have hself : s.pressAll runner entry = s.entering (entry.foldl Key.edit s.picker.buffer) := by
      conv_lhs => rw [← entering_eq_self hmode]
      exact pressAll_entering hentry s.picker.buffer
    rw [pressAll_concat, hself, press_escape, press_escape]
    rfl

/-- The text that is given up is made of keys that are commands elsewhere, behind a count. -/
theorem cancelled_search_does_nothing_of_commands :
    let runner : Runner ℕ := fun target calls => (⟨target, []⟩, calls + 1)
    let s := (start ["all".toList, "lib".toList] 0).pressAll runner
      (.enter {} :: "j3".toList.map Key.typed)
    let entry := "qjkrnN/".toList.map Key.typed ++
      [{ code := .up }, { code := .down }, { code := .backspace }]
    let s' := s.pressAll runner (.slash {} :: entry ++ [.escape {}])
    s' = s.press runner (.escape {}) ∧ s'.picker.selected = 1 ∧ s'.picker.output = "all".toList ∧
      s'.picker.shouldQuit = false ∧ s'.picker.buffer = [] ∧ s'.runs = ["all".toList] ∧
      (s.press runner (.slash {})).pressAll runner (entry ++ [.escape {}]) = s' := by
  intro runner s entry s'
  have hentry : ∀ k ∈ entry, k.Edits := by decide
  have hs' : s' = s.press runner (.escape {}) :=
    (cancelled_search_does_nothing runner s entry hentry {} {}).2.1 (by decide +kernel)
  have hopened : (s.press runner (.slash {})).pressAll runner (entry ++ [.escape {}])
      = (s.press runner (.slash {})).press runner (.escape {}) :=
    (cancelled_search_does_nothing runner _ entry hentry {} {}).2.2 (by decide +kernel)
  refine ⟨hs', by decide +kernel, by decide +kernel, by decide +kernel, by decide +kernel,
    by decide +kernel, ?_⟩
  rw [hopened, hs']
  rfl

end Session

end TargetPicker
