import Mathlib.Tactic.Common
import TargetPicker.Makefile.LineKind
import TargetPicker.Proofs.Text.Words

/-!
# The names in the prerequisites of a rule

`dependencyNames` cuts at ordinary spaces, trims the pieces and drops the empty ones.  The pieces
of a cut hold no space and nothing that was not in the text (`mem_splitOnP`), and trimming keeps
both, so every name is a `DependencyName`.

A space is a border (`dependencyNames_append_space`).  From this one law, names are read back as
they are wherever spaces separate them (`dependencyNames_of_spaceSeparated`): between two names, in
front of the first one or behind the last one, spaces cut off empty pieces only, and these are
dropped.

Other blanks are no borders, but at the end of the text they belong to a piece that is trimmed, so
no blank makes a difference there (`dependencyNames_append_blank`).
-/

namespace TargetPicker

open Text

/-- A name as it stands among prerequisites: not empty, without blanks at its ends, and without a
space inside. -/
@[mk_iff]
structure DependencyName (name : Text) : Prop where
  ne_nil : name ≠ []
  trim_eq : trim name = name
  not_mem_space : ' ' ∉ name

instance (name : Text) : Decidable (DependencyName name) :=
  decidable_of_iff _ (dependencyName_iff name).symm

/-- **Induction over the pieces between spaces.** -/
@[elab_as_elim]
theorem spaceInduction {motive : Text → Prop} (piece : ∀ t : Text, ' ' ∉ t → motive t)
    (space : ∀ s t : Text, motive s → motive t → motive (s ++ ' ' :: t)) (t : Text) :
    motive t := by
  induction hn : t.length using Nat.strongRecOn generalizing t with
  | ind n ih =>
      by_cases hspace : ' ' ∈ t
      · obtain ⟨s, rest, rfl, hs⟩ := List.eq_append_cons_of_mem hspace
        refine space s rest (piece s hs) (ih rest.length ?_ rest rfl)
        simp at hn
        omega
      · exact piece t hspace

/-- **What is read is a name**, made of characters of the text. -/
theorem dependencyName_of_mem {prerequisites name : Text}
    (h : name ∈ dependencyNames prerequisites) :
    DependencyName name ∧ name ⊆ prerequisites := by
  obtain ⟨hmem, hne⟩ := List.mem_filter.mp h
  obtain ⟨piece, hpiece, rfl⟩ := List.mem_map.mp hmem
  obtain ⟨hspace, hsubset⟩ := mem_splitOnP hpiece
  refine ⟨⟨?_, trim_trim piece, ?_⟩, List.Subset.trans (trim_subset piece) hsubset⟩
  · simpa [nonempty] using hne
  · intro hmem
    simpa using hspace ' ' (trim_subset piece hmem)

/-- **Texts on both sides of a space are read apart.** -/
theorem dependencyNames_append_space (s t : Text) :
    dependencyNames (s ++ ' ' :: t) = dependencyNames s ++ dependencyNames t := by
  simp only [dependencyNames, List.splitOn_append_cons_self, List.map_append, List.filter_append]

/-- Without a space there is one name at most. -/
lemma dependencyNames_of_not_mem {t : Text} (h : ' ' ∉ t) :
    dependencyNames t = [trim t].filter nonempty := by
  rw [dependencyNames, List.splitOn_eq_singleton h, List.map_singleton]

/-- Blanks hold no name. -/
lemma dependencyNames_of_blank {t : Text} (h : ∀ c ∈ t, isBlank c = true) :
    dependencyNames t = [] := by
  rw [List.eq_nil_iff_forall_not_mem]
  intro name hname
  obtain ⟨⟨hne, htrim, -⟩, hsubset⟩ := dependencyName_of_mem hname
  obtain ⟨c, name, rfl⟩ := List.exists_cons_of_ne_nil hne
  have hhead := (trim_eq_self_iff.mp htrim).head c rfl
  rw [h c (hsubset List.mem_cons_self)] at hhead
  cases hhead

/-- **Blanks behind the names** make no difference. -/
theorem dependencyNames_append_blank {pad : Text} (hpad : ∀ c ∈ pad, isBlank c = true) (t : Text) :
    dependencyNames (t ++ pad) = dependencyNames t := by
  induction t using spaceInduction with
  | space s t _ ih =>
      rw [List.append_assoc, List.cons_append, dependencyNames_append_space, ih,
        dependencyNames_append_space]
  | piece t hspace =>
      -- what follows the first space of the padding holds no name
      by_cases hcut : ' ' ∈ pad
      · obtain ⟨front, back, rfl, hfront⟩ := List.eq_append_cons_of_mem hcut
        rw [List.forall_mem_append, List.forall_mem_cons] at hpad
        rw [← List.append_assoc, dependencyNames_append_space,
          dependencyNames_of_blank hpad.2.2, List.append_nil,
          dependencyNames_of_not_mem (by simp [hspace, hfront]), trim_append_blank hpad.1,
          dependencyNames_of_not_mem hspace]
      · rw [dependencyNames_of_not_mem (by simp [hspace, hcut]), trim_append_blank hpad,
          dependencyNames_of_not_mem hspace]

/-! ## Names with spaces between them -/

/-- Names in order, with at least one space between each two and any number of spaces in front of
the first and behind the last. -/
inductive SpaceSeparated : List Text → Text → Prop
  | nil : SpaceSeparated [] []
  | last (name : Text) : SpaceSeparated [name] name
  | space {names : List Text} {t : Text} (h : SpaceSeparated names t) :
    SpaceSeparated names (' ' :: t)
  | cons (name : Text) {names : List Text} {t : Text} (h : SpaceSeparated names t) :
    SpaceSeparated (name :: names) (name ++ ' ' :: t)

lemma spaceSeparated_cons (name : Text) (names : List Text) :
    SpaceSeparated (name :: names) (name ++ names.flatMap (' ' :: ·)) := by
  induction names generalizing name with
  | nil => simpa using SpaceSeparated.last name
  | cons next names ih => exact .cons name (ih next)

/-- A space in front of every name. -/
lemma spaceSeparated_spaced (names : List Text) :
    SpaceSeparated names (names.flatMap (' ' :: ·)) := by
  cases names with
  | nil => exact .nil
  | cons name names => exact .space (spaceSeparated_cons name names)

lemma intercalate_cons (name : Text) (names : List Text) :
    [' '].intercalate (name :: names) = name ++ names.flatMap (' ' :: ·) := by
  induction names generalizing name with
  | nil => simp
  | cons next names ih => simp [List.intercalate_cons_cons, ih next]

/-- One space between each two names. -/
lemma spaceSeparated_intercalate (names : List Text) :
    SpaceSeparated names ([' '].intercalate names) := by
  cases names with
  | nil => exact .nil
  | cons name names =>
      rw [intercalate_cons]
      exact spaceSeparated_cons name names

lemma dependencyNames_space (t : Text) : dependencyNames (' ' :: t) = dependencyNames t :=
  dependencyNames_append_space [] t

lemma DependencyName.dependencyNames_eq {name : Text} (h : DependencyName name) :
    dependencyNames name = [name] := by
  rw [dependencyNames_of_not_mem h.not_mem_space, h.trim_eq,
    List.filter_cons_of_pos (by simp [nonempty, h.ne_nil]), List.filter_nil]

/-- **Names are read back**, however many spaces there are. -/
theorem dependencyNames_of_spaceSeparated {names : List Text} {t : Text}
    (ht : SpaceSeparated names t) (h : ∀ name ∈ names, DependencyName name) :
    dependencyNames t = names := by
  induction ht with
  | nil => rfl
  | last name => exact (h name List.mem_cons_self).dependencyNames_eq
  | space _ ih => rw [dependencyNames_space, ih h]
  | cons name _ ih =>
      obtain ⟨hname, hnames⟩ := List.forall_mem_cons.mp h
      rw [dependencyNames_append_space, hname.dependencyNames_eq, ih hnames, List.singleton_append]

/-- Names are read back, each written with a space in front. -/
theorem dependencyNames_spaced {names : List Text} (h : ∀ name ∈ names, DependencyName name) :
    dependencyNames (names.flatMap (' ' :: ·)) = names :=
  dependencyNames_of_spaceSeparated (spaceSeparated_spaced names) h

/-- **Splitting at spaces undoes joining with spaces.**  A space between two texts keeps their names
apart, what is read are names, and names are read back from every text in which spaces separate
them.  So the names that any text gives can be joined and are read again, in their order and as
often as they stand there. -/
theorem dependencyNames_undo_joining :
    (∀ a b : Text, dependencyNames (a ++ ' ' :: b) = dependencyNames a ++ dependencyNames b) ∧
    (∀ t : Text, ∀ name ∈ dependencyNames t, name ≠ [] ∧ ' ' ∉ name ∧ trim name = name) ∧
    (∀ (names : List Text) (t : Text), SpaceSeparated names t →
      (∀ name ∈ names, name ≠ [] ∧ ' ' ∉ name ∧ trim name = name) → dependencyNames t = names) ∧
    (∀ names : List Text, SpaceSeparated names ([' '].intercalate names)) ∧
    ∀ t : Text, dependencyNames ([' '].intercalate (dependencyNames t)) = dependencyNames t := by
  refine ⟨dependencyNames_append_space, ?_, ?_, spaceSeparated_intercalate, ?_⟩
  · intro t name hname
    obtain ⟨hne, htrim, hspace⟩ := (dependencyName_of_mem hname).1
    exact ⟨hne, hspace, htrim⟩
  · intro names t ht hnames
    refine dependencyNames_of_spaceSeparated ht fun name hname => ?_
    obtain ⟨hne, hspace, htrim⟩ := hnames name hname
    exact ⟨hne, htrim, hspace⟩
  · intro t
    refine dependencyNames_of_spaceSeparated (spaceSeparated_intercalate _) fun name hname => ?_
    exact (dependencyName_of_mem hname).1

/-- A tab inside a name, one name twice, and more spaces than are needed. -/
theorem dependencyNames_undo_joining_with_tab :
    dependencyNames "  a\tb   a\tb c ".toList = ["a\tb".toList, "a\tb".toList, ['c']] := by
  obtain ⟨-, -, hjoined, -⟩ := dependencyNames_undo_joining
  refine hjoined _ _ ?_ (by decide)
  exact .space (.space (.cons "a\tb".toList (.space (.space
    (.cons "a\tb".toList (.cons ['c'] .nil))))))

end TargetPicker
