import Mathlib.Tactic.Common
import TargetPicker.Proofs.Makefile.Grammar

/-!
# Where the order of the forms matters

`LineKind.ofText` tries five forms in turn.  Here the forms have names (`Form`), so that they can
be put in any order, and `kindIn` is what another order makes of a line.

Two facts about single forms carry the argument.

* **Whatever fits gives the kind of the line** (`ofText_of_read?`), except that `:=` without a space
  in front fits a line that is a rule header.  This is the completeness of the grammar, form by
  form.
* **A kind belongs to one form** (`form?_of_read?`).

So no line fits two forms, but for the `Unspaced` ones, which fit exactly two.  In any order the
first form that fits therefore gives the same kind, as long as rule headers are tried before simple
assignments.

A test may be stricter with dots than its reader: it may settle every line with a dot in front, as
a directive or as nothing.  No other form starts with a dot, so this makes no difference either.
-/

namespace TargetPicker

/-- The forms of a line. -/
inductive Form where
  | comment
  | directive
  | ruleHeader
  | simple
  | expanded
  deriving DecidableEq, Repr

/-- Lines on which a colon and an equals sign directly follow the name of a variable. -/
def Unspaced (line : Text) : Prop :=
  ∃ name rest, IsName IsLetter name ∧ line = name ++ ':' :: '=' :: rest

/-- The form to which a kind of line belongs. -/
def LineKind.form? : LineKind → Option Form
  | comment => some .comment
  | directive .. => some .directive
  | ruleHeader .. => some .ruleHeader
  | simple .. => some .simple
  | expanded .. => some .expanded
  | unrecognized => none

namespace Form

/-- The order in which lines are read. -/
def order : List Form := [comment, directive, ruleHeader, simple, expanded]

def read? (line : Text) : Form → Option LineKind
  | comment => LineKind.comment? line
  | directive => LineKind.directive? line
  | ruleHeader => LineKind.ruleHeader? line
  | simple => LineKind.simple? line
  | expanded => LineKind.expanded? line

example : order.map (fun f line => f.read? line) = LineKind.forms := rfl

/-- The test of a form.  If dots settle, a line with a dot in front passes the test for directives
even if it is none, and then it is unrecognised. -/
def test? (dotSettles : Bool) (line : Text) (f : Form) : Option LineKind :=
  if dotSettles ∧ f = directive ∧ line.head? = some '.' then
    some ((f.read? line).getD .unrecognized)
  else f.read? line

end Form

/-- What the first of some tests makes of a line. -/
def kindIn (dotSettles : Bool) (order : List Form) (line : Text) : LineKind :=
  (order.findSome? (Form.test? dotSettles line)).getD .unrecognized

variable {line : Text} {k k' : LineKind} {f g : Form} {dotSettles : Bool} {order : List Form}

/-! ## One form -/

lemma form?_of_read? (h : f.read? line = some k) : k.form? = some f := by
  cases f with
  | comment =>
      obtain ⟨_, -, rfl⟩ := LineKind.comment?_eq_some_iff.mp h
      rfl
  | directive =>
      obtain ⟨_, _, -, -, rfl⟩ := LineKind.directive?_eq_some_iff.mp h
      rfl
  | ruleHeader =>
      obtain ⟨_, _, -, -, rfl⟩ := LineKind.ruleHeader?_eq_some_iff.mp h
      rfl
  | simple =>
      obtain ⟨_, _, _, -, -, rfl⟩ := LineKind.simple?_eq_some_iff.mp h
      rfl
  | expanded =>
      obtain ⟨_, _, _, -, -, rfl⟩ := LineKind.expanded?_eq_some_iff.mp h
      rfl

/-- **What a form reads is the kind of the line**, with one exception. -/
theorem ofText_of_read? (h : f.read? line = some k) :
    LineKind.ofText line = k ∨ f = .simple ∧ Unspaced line := by
  cases f with
  | comment =>
      obtain ⟨rest, rfl, rfl⟩ := LineKind.comment?_eq_some_iff.mp h
      exact Or.inl (LineKind.ofText_text (.comment rest))
  | directive =>
      obtain ⟨name, rest, hname, rfl, rfl⟩ := LineKind.directive?_eq_some_iff.mp h
      exact Or.inl (LineKind.ofText_text (.directive name rest hname))
  | ruleHeader =>
      obtain ⟨target, rest, htarget, rfl, rfl⟩ := LineKind.ruleHeader?_eq_some_iff.mp h
      exact Or.inl (LineKind.ofText_text (.ruleHeader target rest htarget))
  | simple =>
      obtain ⟨name, spaced, rest, hname, rfl, rfl⟩ := LineKind.simple?_eq_some_iff.mp h
      cases spaced with
      | true => exact Or.inl (LineKind.ofText_text (.simple name rest hname))
      | false => exact Or.inr ⟨rfl, name, rest, hname, rfl⟩
  | expanded =>
      obtain ⟨name, spaced, rest, hname, rfl, rfl⟩ := LineKind.expanded?_eq_some_iff.mp h
      exact Or.inl (LineKind.ofText_text (.expanded name spaced rest hname))

/-- Without the space both readings are there, and the line counts as a rule header. -/
lemma Unspaced.read? (h : Unspaced line) :
    ∃ header assignment, Form.ruleHeader.read? line = some header ∧
      Form.simple.read? line = some assignment ∧ LineKind.ofText line = header := by
  obtain ⟨name, rest, hname, rfl⟩ := h
  refine ⟨.ruleHeader name ('=' :: rest), .simple name (Text.trim rest), ?_, ?_, ?_⟩
  · exact LineKind.ruleHeader?_eq_some_iff.mpr ⟨name, _, hname.target, rfl, rfl⟩
  · exact LineKind.simple?_eq_some_iff.mpr ⟨name, false, rest, hname, rfl, rfl⟩
  · exact LineKind.ofText_text (.ruleHeader name ('=' :: rest) hname.target)

/-- No third form fits a line without the space. -/
lemma form_of_unspaced (hunspaced : Unspaced line) (h : f.read? line = some k) :
    f = .ruleHeader ∨ f = .simple := by
  obtain ⟨header, -, hheader, -, hkind⟩ := hunspaced.read?
  rcases ofText_of_read? h with hread | ⟨rfl, -⟩
  · left
    have hform := form?_of_read? h
    rw [← hread, hkind, form?_of_read? hheader] at hform
    exact (Option.some.inj hform).symm
  · right
    rfl

/-- **Two forms that fit one line.** -/
theorem unspaced_of_two (hf : f.read? line = some k) (hg : g.read? line = some k')
    (hne : f ≠ g) : Unspaced line := by
  rcases ofText_of_read? hf with hk | ⟨-, hunspaced⟩
  · rcases ofText_of_read? hg with hk' | ⟨-, hunspaced⟩
    · have hform := form?_of_read? hf
      rw [← hk, hk', form?_of_read? hg] at hform
      exact absurd (Option.some.inj hform).symm hne
    · exact hunspaced
  · exact hunspaced

/-- A line with a dot in front is a directive or nothing. -/
lemma ofText_of_dot (hdot : line.head? = some '.') (h : LineKind.directive? line = none) :
    LineKind.ofText line = .unrecognized := by
  rw [LineKind.ofText_eq_unrecognized_iff]
  rintro ⟨f, rfl⟩
  cases f with
  | comment rest => simp [LineForm.text] at hdot
  | directive name rest hname =>
      have hread := LineKind.directive?_eq_some_iff.mpr ⟨name, rest, hname, rfl, rfl⟩
      cases h.symm.trans hread
  | ruleHeader target rest htarget => exact absurd (htarget.of_head? hdot) (by decide)
  | simple name value hname => exact absurd (hname.of_head? hdot) (by decide)
  | expanded name spaced value hname => exact absurd (hname.of_head? hdot) (by decide)

/-! ## One test -/

lemma test?_cases (h : f.test? dotSettles line = some k) :
    f.read? line = some k ∨ LineKind.ofText line = .unrecognized ∧ k = .unrecognized := by
  unfold Form.test? at h
  split at h
  · next hsettled =>
    obtain ⟨-, rfl, hdot⟩ := hsettled
    cases hread : Form.directive.read? line with
    | some k' =>
        rw [hread] at h
        exact Or.inl h
    | none =>
        rw [hread] at h
        exact Or.inr ⟨ofText_of_dot hdot hread, (Option.some.inj h).symm⟩
  · exact Or.inl h

lemma test?_of_read? (h : f.read? line = some k) : f.test? dotSettles line = some k := by
  unfold Form.test?
  split
  · rw [h, Option.getD_some]
  · exact h

/-- A test that is passed gives the kind of the line, with the same exception. -/
lemma ofText_of_test? (h : f.test? dotSettles line = some k) :
    LineKind.ofText line = k ∨ f = .simple ∧ Unspaced line := by
  rcases test?_cases h with hread | ⟨hnone, rfl⟩
  · exact ofText_of_read? hread
  · exact Or.inl hnone

/-! ## Orders -/

/-- What is tried earlier than a form stands in front of it. -/
lemma mem_of_idxOf_lt {before after : List Form}
    (h : (before ++ g :: after).idxOf f < (before ++ g :: after).idxOf g) : f ∈ before := by
  by_contra hnot
  have hg : (before ++ g :: after).idxOf g ≤ before.length := by
    by_cases hmem : g ∈ before
    · rw [List.idxOf_append_of_mem hmem]
      exact List.idxOf_le_length
    · rw [List.idxOf_append_of_notMem hmem]
      simp
  rw [List.idxOf_append_of_notMem hnot] at h
  omega

/-- **What decides in an order**: a test that is passed where all earlier ones are failed, or no
test at all. -/
lemma kindIn_cases (line : Text) (hall : ∀ f, f ∈ order) :
    (∃ f k, f.test? dotSettles line = some k ∧ kindIn dotSettles order line = k ∧
      ∀ g, order.idxOf g < order.idxOf f → g.test? dotSettles line = none) ∨
    kindIn dotSettles order line = .unrecognized ∧ LineKind.ofText line = .unrecognized := by
  cases hfound : order.findSome? (Form.test? dotSettles line) with
  | some k =>
      obtain ⟨before, f, after, rfl, hf, hbefore⟩ := List.findSome?_eq_some_iff.mp hfound
      refine Or.inl ⟨f, k, hf, ?_, fun g hg => hbefore g (mem_of_idxOf_lt hg)⟩
      rw [kindIn, hfound, Option.getD_some]
  | none =>
      have hread : ∀ f, Form.read? line f = none := by
        intro f
        have htest := List.findSome?_eq_none_iff.mp hfound f (hall f)
        by_contra hsome
        obtain ⟨k, hk⟩ := Option.ne_none_iff_exists'.mp hsome
        cases htest.symm.trans (test?_of_read? hk)
      refine Or.inr ⟨by rw [kindIn, hfound, Option.getD_none], ?_⟩
      have hcomment : LineKind.comment? line = none := hread .comment
      have hdirective : LineKind.directive? line = none := hread .directive
      have hheader : LineKind.ruleHeader? line = none := hread .ruleHeader
      have hsimple : LineKind.simple? line = none := hread .simple
      have hexpanded : LineKind.expanded? line = none := hread .expanded
      simp [LineKind.ofText_eq, hcomment, hdirective, hheader, hsimple, hexpanded]

/-- Where rule headers are tried before simple assignments, every order is as good as any. -/
lemma kindIn_eq_ofText (hall : ∀ f, f ∈ order)
    (horder : Unspaced line → order.idxOf .ruleHeader < order.idxOf .simple) :
    kindIn dotSettles order line = LineKind.ofText line := by
  obtain ⟨f, k, hf, hk, hearlier⟩ | ⟨hk, hnone⟩ := kindIn_cases line hall
  · rcases ofText_of_test? hf with hkind | ⟨rfl, hunspaced⟩
    · rw [hk, hkind]
    · -- the rule header would have been found before
      obtain ⟨header, -, hheader, -, -⟩ := hunspaced.read?
      have hfailed := hearlier .ruleHeader (horder hunspaced)
      cases hfailed.symm.trans (test?_of_read? hheader)
  · rw [hk, hnone]

/-- Where simple assignments are tried first, a line without the space changes its kind. -/
lemma kindIn_ne_ofText (hall : ∀ f, f ∈ order)
    (horder : order.idxOf .simple < order.idxOf .ruleHeader) (hunspaced : Unspaced line) :
    kindIn dotSettles order line ≠ LineKind.ofText line := by
  obtain ⟨header, assignment, hheader, hassignment, hkind⟩ := hunspaced.read?
  have hform := form?_of_read? hheader
  intro hsame
  obtain ⟨f, k, hf, hk, hearlier⟩ | ⟨-, hnone⟩ := kindIn_cases line hall
  · obtain rfl : k = header := by rw [← hk, hsame, hkind]
    rcases test?_cases hf with hread | ⟨-, rfl⟩
    · obtain rfl : f = .ruleHeader := Option.some.inj ((form?_of_read? hread).symm.trans hform)
      have hfailed := hearlier .simple horder
      cases hfailed.symm.trans (test?_of_read? hassignment)
    · cases hform
  · rw [← hkind, hnone] at hform
    cases hform

/-- **The order of the forms matters once.**  No line fits two forms, but for the lines without a
space before `:=`, which fit as a rule header and as an assignment.  So any order that keeps rule
headers before simple assignments gives every line its kind, and any order that does not gives
another one to exactly these lines; it does not matter whether a dot settles a line. -/
theorem order_matters_once (line : Text) :
    (∀ f g : Form, (f.read? line).isSome → (g.read? line).isSome → f ≠ g →
      (f = .ruleHeader ∧ g = .simple) ∨ (f = .simple ∧ g = .ruleHeader)) ∧
    ((Form.ruleHeader.read? line).isSome ∧ (Form.simple.read? line).isSome ↔ Unspaced line) ∧
    ∀ (dotSettles : Bool) (order : List Form), order.Perm Form.order →
      (order.idxOf .ruleHeader < order.idxOf .simple →
        kindIn dotSettles order line = LineKind.ofText line) ∧
      (order.idxOf .simple < order.idxOf .ruleHeader →
        (kindIn dotSettles order line ≠ LineKind.ofText line ↔ Unspaced line)) := by
  refine ⟨?_, ⟨?_, ?_⟩, ?_⟩
  · intro f g hf hg hne
    obtain ⟨k, hk⟩ := Option.isSome_iff_exists.mp hf
    obtain ⟨k', hk'⟩ := Option.isSome_iff_exists.mp hg
    have hunspaced := unspaced_of_two hk hk' hne
    rcases form_of_unspaced hunspaced hk with rfl | rfl <;>
      rcases form_of_unspaced hunspaced hk' with rfl | rfl <;> simp at hne ⊢
  · rintro ⟨hheader, hsimple⟩
    obtain ⟨k, hk⟩ := Option.isSome_iff_exists.mp hheader
    obtain ⟨k', hk'⟩ := Option.isSome_iff_exists.mp hsimple
    exact unspaced_of_two hk hk' (by decide)
  · intro hunspaced
    obtain ⟨header, assignment, hheader, hassignment, -⟩ := hunspaced.read?
    rw [hheader, hassignment]
    exact ⟨rfl, rfl⟩
  · intro dotSettles order hperm
    have hall : ∀ f, f ∈ order := by
      intro f
      rw [hperm.mem_iff]
      cases f <;> decide
    refine ⟨fun horder => kindIn_eq_ofText hall fun _ => horder, fun horder => ⟨fun hne => ?_, ?_⟩⟩
    · by_contra hspaced
      exact hne (kindIn_eq_ofText hall fun hunspaced => absurd hunspaced hspaced)
    · exact kindIn_ne_ofText hall horder

/-- With the two assignments the other way round the line stays a rule header, and with the rule
header behind `:=` it is none any more. -/
theorem order_matters_once_without_space :
    kindIn true [.comment, .directive, .ruleHeader, .expanded, .simple] "CC:=cc".toList
        = .ruleHeader "CC".toList "=cc".toList ∧
      kindIn true [.comment, .directive, .simple, .ruleHeader, .expanded] "CC:=cc".toList
        ≠ .ruleHeader "CC".toList "=cc".toList := by
  obtain ⟨-, -, horders⟩ := order_matters_once "CC:=cc".toList
  have hkind : LineKind.ofText "CC:=cc".toList = .ruleHeader "CC".toList "=cc".toList := by
    decide +kernel
  rw [← hkind]
  refine ⟨(horders true _ (by decide)).1 (by decide), ?_⟩
  exact ((horders true _ (by decide)).2 (by decide)).mpr
    ⟨"CC".toList, "cc".toList, by decide, by decide⟩

end TargetPicker
