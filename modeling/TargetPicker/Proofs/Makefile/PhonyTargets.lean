import Mathlib.Tactic.Common
import TargetPicker.Proofs.Makefile.DecodedContent
import TargetPicker.Proofs.Makefile.DependencyNames

/-!
# Phony targets and dependencies

The same text can stand behind `.PHONY:` and behind the target of a rule, and it is cut up in two
ways.  A rule cuts it at spaces and trims the pieces; a directive trims it as a whole, and its words
are cut out at blanks of every kind.

**The words of a text are the words of its names** (`words_eq_flatMap_dependencyNames`).  Spaces are
blanks, so every border of a name is one of a word; by the law of either cut at a space, it is
enough to look at a text without spaces, and that is one name with blanks at its ends.  Therefore a
rule has the same names with some of them joined: by blanks, and by no space.

**A makefile is looked at line by line** (`phonyTargets_ofLines`).  The grammar gives that the lines
with a phony definition are the ones that start with `.PHONY:`, and no plain variable does.
-/

namespace TargetPicker

open Text

/-! ## One text, cut in two ways -/

/-- **The words of a text are the words of its names.** -/
theorem words_eq_flatMap_dependencyNames (t : Text) :
    words t = (dependencyNames t).flatMap words := by
  induction t using spaceInduction with
  | space s t hs ht =>
      rw [words_append_blank_cons (by decide), dependencyNames_append_space, List.flatMap_append,
        hs, ht]
  | piece t hspace =>
      rw [dependencyNames_of_not_mem hspace]
      by_cases hne : trim t = []
      · rw [hne, ← words_trim, hne]
        rfl
      · rw [List.filter_cons_of_pos (by simp [nonempty, hne]), List.filter_nil,
          List.flatMap_singleton, words_trim]

/-- **Two lists of names from one text**, the second one by a finer cut. -/
structure FinerCut (dependencies targets : List Text) : Prop where
  /-- The words of the names, in their order. -/
  cut : targets = dependencies.flatMap words
  /-- The lists agree exactly if no name holds a blank. -/
  eq_iff : targets = dependencies ↔ ∀ d ∈ dependencies, ∀ c ∈ d, isBlank c = false
  /-- Such a name is some of the targets joined by blanks other than the space. -/
  joined : ∀ d ∈ dependencies, GapJoined (· ≠ ' ') (words d) d

theorem finerCut_words (t : Text) : FinerCut (dependencyNames t) (words t) := by
  have hcut := words_eq_flatMap_dependencyNames t
  refine ⟨hcut, ⟨fun heq d hd => ?_, fun hblank => ?_⟩, fun d hd => ?_⟩
  · rw [← heq] at hd
    exact (of_mem_words hd).2
  · have hself : ∀ d ∈ dependencyNames t, words d = [d] := fun d hd =>
      words_of_not_blank (dependencyName_of_mem hd).1.ne_nil (hblank d hd)
    rw [hcut, List.flatMap_congr hself]
    simp
  · obtain ⟨hne, htrim, hspace⟩ := (dependencyName_of_mem hd).1
    refine gapJoined_words ?_ hne (trim_eq_self_iff.mp htrim)
    rintro c hc rfl
    exact hspace hc

/-! ## Lines that name phony targets -/

/-- The start of the lines that name phony targets. -/
def phonyStart : Text := '.' :: (Variable.phonyName ++ [':'])

example : phonyStart = ".PHONY:".toList := rfl

/-- What follows `.PHONY:` on a line. -/
def phonyText? (line : Text) : Option Text := Text.after? phonyStart line

/-- A line that defines a plain variable of the name `PHONY`. -/
def IsPlainPhony (line : Text) : Prop :=
  ∃ value, LineKind.ofText line = .simple Variable.phonyName value ∨
    LineKind.ofText line = .expanded Variable.phonyName value

variable {line t : Text} {l : Line} {v : Variable} (identifier : Text)

lemma ofText_of_phonyText? (h : phonyText? line = some t) :
    LineKind.ofText line = .directive Variable.phonyName (trim t) := by
  refine LineKind.ofText_eq_directive_iff.mpr ⟨by decide, t, ?_, rfl⟩
  exact Text.after?_eq_some_iff.mp h

lemma IsPlainPhony.phonyText?_eq_none (h : IsPlainPhony line) : phonyText? line = none := by
  rw [Option.eq_none_iff_forall_not_mem]
  intro t ht
  obtain ⟨value, hkind | hkind⟩ := h <;> cases hkind.symm.trans (ofText_of_phonyText? ht)

lemma definition?_of_phonyText? (h : phonyText? l.text = some t) :
    l.definition? identifier = some
      { name := Variable.phonyName
        assignment := trim t
        kind := .special
        identifier
        lineNumber := l.number } := by
  rw [Line.definition?, ofText_of_phonyText? h]

lemma not_isPhony_of_definition? (h : phonyText? l.text = none)
    (hv : l.definition? identifier = some v) : v.isPhony = false := by
  unfold Line.definition? at hv
  split at hv
  · next name rest hkind =>
    obtain ⟨-, r, hline, -⟩ := LineKind.ofText_eq_directive_iff.mp hkind
    cases hv
    by_contra hphony
    have hname : name = Variable.phonyName := by
      simpa [Variable.isPhony, Variable.isSpecial] using hphony
    have htext : phonyText? l.text = some r := by
      refine Text.after?_eq_some_iff.mpr ?_
      rw [hline, hname]
      rfl
    cases h.symm.trans htext
  · cases hv
    rfl
  · cases hv
    rfl
  · cases hv

/-- **The phony targets of some lines.** -/
theorem phonyTargets_ofLines (texts : List Text) (n : ℕ) :
    (Makefile.ofLines identifier (Line.numberedFrom n texts)).phonyTargets
      = (texts.filterMap phonyText?).flatMap words := by
  induction texts generalizing n with
  | nil => rfl
  | cons text texts ih =>
      have hrest := ih (n + 1)
      simp only [Makefile.phonyTargets, Makefile.ofLines] at hrest ⊢
      rw [Line.numberedFrom_cons]
      cases htext : phonyText? text with
      | some t =>
          rw [List.filterMap_cons_some (definition?_of_phonyText? identifier htext),
            List.filterMap_cons_some htext, List.filter_cons_of_pos rfl, List.flatMap_cons,
            List.flatMap_cons, words_trim, hrest]
      | none =>
          rw [List.filterMap_cons_none htext, ← hrest]
          cases hv : Line.definition? identifier ⟨n, text⟩ with
          | none => rw [List.filterMap_cons_none hv]
          | some v =>
              have hphony := not_isPhony_of_definition? identifier htext hv
              rw [List.filterMap_cons_some hv, List.filter_cons_of_neg (by simp [hphony])]

namespace Makefile

/-- A text without a line feed is the only line of its content. -/
lemma parseBytes_utf8 (hne : t ≠ []) (h : '\n' ∉ t) :
    (parseBytes identifier t.utf8).result
      = .ok (ofLines identifier (Line.numberedFrom 1 [t])) := by
  rw [parseBytes_result, Bytes.lines_eq_lines_decode, decode_utf8, lines_unterminated hne h]

lemma phonyTargets_of_phonyText? (h : phonyText? line = some t) :
    (ofLines identifier (Line.numberedFrom 1 [line])).phonyTargets = words t := by
  rw [phonyTargets_ofLines, List.filterMap_cons_some h]
  simp

lemma rules_header (target : Text) (h : IsName IsTargetLetter target) :
    (ofLines identifier (Line.numberedFrom 1 [target ++ ':' :: t])).rules
      = [{ target
           dependencies := dependencyNames t
           body := []
           identifier
           lineNumber := 1 }] := by
  have hkind : LineKind.ofText (target ++ ':' :: t) = .ruleHeader target t :=
    LineKind.ofText_eq_ruleHeader_iff.mpr ⟨h, rfl⟩
  simp [ofLines, Rule.headed?, hkind, Line.leadingCommands]

/-- **What a rule depends on and what is phony.**  Of one text a rule takes the names and a
directive the words of these names, a finer cut.  The phony targets of a makefile are the words from
all lines that start with `.PHONY:`, and a line on which a plain variable `PHONY` is defined adds
nothing. -/
theorem phonyTargets_cut_dependencies (identifier : Text) :
    (∀ t : Text, '\n' ∉ t → ∃ (phony header : Makefile) (r : Rule),
      (parseBytes identifier (utf8 (".PHONY:".toList ++ t))).result = .ok phony ∧
      (parseBytes identifier (utf8 ("x:".toList ++ t))).result = .ok header ∧
      header.rules = [r] ∧ r.target = ['x'] ∧ r.dependencies = dependencyNames t ∧
      FinerCut r.dependencies phony.phonyTargets) ∧
    (∀ content : Bytes, ∃ m : Makefile, (parseBytes identifier content).result = .ok m ∧
      m.phonyTargets = ((Bytes.lines content).filterMap phonyText?).flatMap
        fun t => (dependencyNames t).flatMap words) ∧
    (∀ (content content' : Bytes) (m m' : Makefile) (before after : List Text) (line : Text),
      (parseBytes identifier content).result = .ok m →
      (parseBytes identifier content').result = .ok m' →
      Bytes.lines content = before ++ after →
      Bytes.lines content' = before ++ line :: after →
      IsPlainPhony line → m'.phonyTargets = m.phonyTargets) := by
  refine ⟨fun t ht => ?_, fun content => ?_, ?_⟩
  · have hfree : ∀ start : Text, '\n' ∉ start → '\n' ∉ start ++ t := by
      intro start hstart
      rw [List.mem_append]
      exact not_or.mpr ⟨hstart, ht⟩
    have htext : phonyText? (".PHONY:".toList ++ t) = some t := Text.after?_eq_some_iff.mpr rfl
    refine ⟨_, _, _, parseBytes_utf8 identifier (by simp) (hfree _ (by decide)),
      parseBytes_utf8 identifier (by simp) (hfree _ (by decide)),
      rules_header identifier ['x'] (by decide), rfl, rfl, ?_⟩
    rw [phonyTargets_of_phonyText? identifier htext]
    exact finerCut_words t
  · refine ⟨_, parseBytes_result identifier content, ?_⟩
    rw [phonyTargets_ofLines]
    exact List.flatMap_congr fun t _ => words_eq_flatMap_dependencyNames t
  · intro content content' m m' before after line hm hm' hlines hlines' hplain
    obtain rfl := Except.ok.inj (hm.symm.trans (parseBytes_result identifier content))
    obtain rfl := Except.ok.inj (hm'.symm.trans (parseBytes_result identifier content'))
    rw [phonyTargets_ofLines, phonyTargets_ofLines, hlines, hlines', List.filterMap_append,
      List.filterMap_append, List.filterMap_cons_none hplain.phonyText?_eq_none]

/-- A tab keeps two names together in a rule and apart in a directive, and a plain variable below
the directive changes nothing. -/
theorem phonyTargets_cut_dependencies_at_tab :
    (∃ (phony header : Makefile) (r : Rule),
      (parseBytes [] (utf8 ".PHONY: a\tb  c".toList)).result = .ok phony ∧
      (parseBytes [] (utf8 "x: a\tb  c".toList)).result = .ok header ∧ header.rules = [r] ∧
      r.dependencies = ["a\tb".toList, ['c']] ∧ phony.phonyTargets = [['a'], ['b'], ['c']]) ∧
    ∃ m : Makefile,
      (parseBytes [] (utf8 ".PHONY: all\nPHONY = clean\n".toList)).result = .ok m ∧
      m.phonyTargets = ["all".toList] := by
  obtain ⟨htext, hcontent, hplain⟩ := phonyTargets_cut_dependencies []
  constructor
  · obtain ⟨phony, header, r, hphony, hheader, hrules, -, hdependencies, hcut⟩ :=
      htext " a\tb  c".toList (by decide)
    refine ⟨phony, header, r, hphony, hheader, hrules, ?_, ?_⟩
    · rw [hdependencies]
      decide +kernel
    · rw [hcut.cut, hdependencies]
      decide +kernel
  · obtain ⟨m, hm, htargets⟩ := hcontent (utf8 ".PHONY: all\n".toList)
    obtain ⟨m', hm', -⟩ := hcontent (utf8 ".PHONY: all\nPHONY = clean\n".toList)
    have hsame := hplain _ _ m m' [".PHONY: all".toList] [] "PHONY = clean".toList hm hm'
      (by decide +kernel) (by decide +kernel) ⟨"clean".toList, Or.inr (by decide +kernel)⟩
    refine ⟨m', hm', hsame.trans ?_⟩
    rw [htargets]
    decide +kernel

end Makefile

end TargetPicker
