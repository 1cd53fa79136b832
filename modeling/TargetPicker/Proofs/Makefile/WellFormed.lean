import Mathlib.Tactic.Common
import TargetPicker.Proofs.Makefile.DependencyNames
import TargetPicker.Proofs.Makefile.LineByLine

/-!
# Well-formed records

Whatever is read, its records are *well-formed*: names are names of their class, the other texts
are trimmed, and no text holds a line feed.  Each condition comes from one of two places.  The
grammar of a line gives the names and the trimming; the line itself, which holds no line feed,
gives the rest, since every part of a record is a part of a line.
-/

namespace TargetPicker

open Text

/-- A text that is read from inside one line and trimmed. -/
@[mk_iff]
structure TrimmedPart (t : Text) : Prop where
  trim_eq : trim t = t
  newline : '\n' ∉ t

instance (t : Text) : Decidable (TrimmedPart t) := decidable_of_iff _ (trimmedPart_iff t).symm

@[mk_iff]
structure Rule.WellFormed (r : Rule) : Prop where
  target : IsName IsTargetLetter r.target
  dependencies : ∀ d ∈ r.dependencies, DependencyName d ∧ '\n' ∉ d
  body : ∀ command ∈ r.body, TrimmedPart command

instance (r : Rule) : Decidable r.WellFormed := decidable_of_iff _ (Rule.wellFormed_iff r).symm

/-- The characters that names of variables of a kind are made of. -/
def VariableKind.IsNameLetter : VariableKind → Char → Prop
  | .special => IsDirectiveLetter
  | .simple => IsLetter
  | .expanded => IsLetter

instance (kind : VariableKind) : DecidablePred kind.IsNameLetter := fun c =>
  match kind with
  | .special => inferInstanceAs (Decidable (IsDirectiveLetter c))
  | .simple => inferInstanceAs (Decidable (IsLetter c))
  | .expanded => inferInstanceAs (Decidable (IsLetter c))

@[mk_iff]
structure Variable.WellFormed (v : Variable) : Prop where
  name : IsName v.kind.IsNameLetter v.name
  assignment : TrimmedPart v.assignment

instance (v : Variable) : Decidable v.WellFormed :=
  decidable_of_iff _ (Variable.wellFormed_iff v).symm

/-- All records are well-formed and carry the name of the makefile. -/
structure Makefile.WellFormed (m : Makefile) : Prop where
  rules : ∀ r ∈ m.rules, r.WellFormed ∧ r.identifier = m.identifier
  definitions : ∀ v ∈ m.definitions, v.WellFormed ∧ v.identifier = m.identifier

/-! ## Texts of records -/

def Rule.texts (r : Rule) : List Text := r.target :: (r.dependencies ++ r.body)

def Variable.texts (v : Variable) : List Text := [v.name, v.assignment]

/-- All that a makefile quotes of its lines. -/
def Makefile.texts (m : Makefile) : List Text :=
  m.rules.flatMap Rule.texts ++ m.definitions.flatMap Variable.texts

lemma IsName.newline_not_mem {p : Char → Prop} {name : Text} (h : IsName p name) (hp : ¬ p '\n') :
    '\n' ∉ name := fun hmem => hp (h.2 _ hmem)

lemma Rule.WellFormed.newline_not_mem {r : Rule} (h : r.WellFormed) :
    ∀ t ∈ r.texts, '\n' ∉ t := by
  rw [Rule.texts, List.forall_mem_cons, List.forall_mem_append]
  exact ⟨h.target.newline_not_mem (by decide), fun d hd => (h.dependencies d hd).2,
    fun command hcommand => (h.body command hcommand).newline⟩

lemma Variable.WellFormed.newline_not_mem {v : Variable} (h : v.WellFormed) :
    ∀ t ∈ v.texts, '\n' ∉ t := by
  have hname : ¬ v.kind.IsNameLetter '\n' := by
    cases v.kind <;> decide
  rw [Variable.texts, List.forall_mem_cons, List.forall_mem_singleton]
  exact ⟨h.name.newline_not_mem hname, h.assignment.newline⟩

/-- **No text of a record goes over the end of a line.** -/
theorem Makefile.WellFormed.newline_not_mem {m : Makefile} (h : m.WellFormed) :
    ∀ t ∈ m.texts, '\n' ∉ t := by
  refine List.forall_mem_append.mpr ⟨fun t ht => ?_, fun t ht => ?_⟩
  · obtain ⟨r, hr, ht⟩ := List.mem_flatMap.mp ht
    exact (h.rules r hr).1.newline_not_mem t ht
  · obtain ⟨v, hv, ht⟩ := List.mem_flatMap.mp ht
    exact (h.definitions v hv).1.newline_not_mem t ht

/-! ## Parts of a line -/

lemma TrimmedPart.of_subset {t line : Text} (hsubset : t ⊆ line) (hline : '\n' ∉ line) :
    TrimmedPart (trim t) :=
  ⟨trim_trim t, fun h => hline (hsubset (trim_subset t h))⟩

lemma Line.trimmedPart_of_command? {l : Line} {command : Text} (hl : '\n' ∉ l.text)
    (h : l.command? = some command) : TrimmedPart command := by
  obtain ⟨rest, -, rfl⟩ := recipeCommand?_eq_some_iff.mp h
  exact TrimmedPart.of_subset (List.dropWhile_subset _) hl

lemma Line.trimmedPart_of_mem_leadingCommands {lines : List Line} {command : Text}
    (hlines : ∀ l ∈ lines, '\n' ∉ l.text) (h : command ∈ Line.leadingCommands lines) :
    TrimmedPart command := by
  obtain ⟨l, hl, hcommand⟩ := List.mem_filterMap.mp h
  exact Line.trimmedPart_of_command? (hlines l (List.takeWhile_subset _ hl)) hcommand

/-! ## Records of lines -/

variable {identifier : Text}

theorem Rule.wellFormed_of_headed? {lines : List Line} {r : Rule}
    (hlines : ∀ l ∈ lines, '\n' ∉ l.text) (h : Rule.headed? identifier lines = some r) :
    r.WellFormed ∧ r.identifier = identifier := by
  cases lines with
  | nil => cases h
  | cons l after =>
      rw [List.forall_mem_cons] at hlines
      obtain ⟨target, prerequisites, hkind, rfl⟩ := Rule.headed?_eq_some_iff.mp h
      obtain ⟨htarget, hline⟩ := LineKind.ofText_eq_ruleHeader_iff.mp hkind
      refine ⟨⟨htarget, fun d hd => ?_, fun command hcommand => ?_⟩, rfl⟩
      · obtain ⟨hname, hsubset⟩ := dependencyName_of_mem hd
        refine ⟨hname, fun hnewline => hlines.1 ?_⟩
        rw [hline]
        simp [hsubset hnewline]
      · exact Line.trimmedPart_of_mem_leadingCommands hlines.2 hcommand

theorem Variable.wellFormed_of_definition? {l : Line} {v : Variable} (hl : '\n' ∉ l.text)
    (h : l.definition? identifier = some v) : v.WellFormed ∧ v.identifier = identifier := by
  unfold Line.definition? at h
  split at h
  · next name rest hkind =>
    obtain ⟨hname, r, hline, rfl⟩ := LineKind.ofText_eq_directive_iff.mp hkind
    cases h
    refine ⟨⟨hname, TrimmedPart.of_subset (fun c hc => ?_) hl⟩, rfl⟩
    simp [hline, hc]
  · next name value hkind =>
    obtain ⟨hname, r, hline, rfl⟩ := LineKind.ofText_eq_simple_iff.mp hkind
    cases h
    refine ⟨⟨hname, TrimmedPart.of_subset (fun c hc => ?_) hl⟩, rfl⟩
    simp [hline, hc]
  · next name value hkind =>
    obtain ⟨hname, space, r, -, hline, rfl⟩ := LineKind.ofText_eq_expanded_iff.mp hkind
    cases h
    refine ⟨⟨hname, TrimmedPart.of_subset (fun c hc => ?_) hl⟩, rfl⟩
    simp [hline, hc]
  · cases h

namespace Makefile

theorem wellFormed_ofLines {lines : List Line} (hlines : ∀ l ∈ lines, '\n' ∉ l.text) :
    (ofLines identifier lines).WellFormed := by
  refine ⟨fun r hr => ?_, fun v hv => ?_⟩
  · obtain ⟨suffix, hsuffix, hr⟩ := List.mem_filterMap.mp hr
    have hsubset : suffix ⊆ lines := ((List.mem_tails suffix lines).mp hsuffix).subset
    exact Rule.wellFormed_of_headed? (fun l hl => hlines l (hsubset hl)) hr
  · obtain ⟨l, hl, hv⟩ := List.mem_filterMap.mp hv
    exact Variable.wellFormed_of_definition? (hlines l hl) hv

lemma identifier_of_parse (identifier : Text) {events : List ReadEvent} {m : Makefile}
    (h : (parse identifier events).result = .ok m) : m.identifier = identifier := by
  rw [parse, LineSource.parse_result] at h
  split at h
  · cases h
  · cases h
    rfl

/-- **Every makefile that is read is well-formed**, whatever the reader gives. -/
theorem wellFormed_of_parse {events : List ReadEvent} {m : Makefile}
    (h : (parse identifier events).result = .ok m) : m.WellFormed := by
  rw [parse, LineSource.parse_result] at h
  split at h
  · cases h
  · cases h
    refine wellFormed_ofLines fun l hl => ?_
    exact LineSource.newline_not_mem_of_mem_untilFailure hl

end Makefile

end TargetPicker
