import Mathlib.Tactic.Common
import TargetPicker.Proofs.Text.Trim

/-!
# Words

A blank is a border of words (`words_append_blank_cons`), and the rest follows from this: blanks at
the ends make no difference, so trimming makes none (`words_trim`), and a text without blanks is one
word (`words_of_not_blank`).

Conversely a trimmed text is its words with gaps of blanks between them (`gapJoined_words`).  What
blanks these are depends on the text, so the statement carries along what is known of its
characters.
-/

namespace TargetPicker.Text

variable {w t : Text} {c : Char}

/-- A piece of a cut holds no separator, and nothing that was not there. -/
lemma mem_splitOnP {p : Char → Bool} {piece : Text} (h : piece ∈ t.splitOnP p) :
    (∀ c ∈ piece, p c = false) ∧ piece ⊆ t := by
  induction t generalizing piece with
  | nil =>
      have hpiece : piece = [] := List.mem_singleton.mp h
      simp [hpiece]
  | cons c t ih =>
      rw [List.splitOnP_cons_eq_if_modifyHead] at h
      split at h
      · rcases List.mem_cons.mp h with rfl | h
        · simp
        · exact ⟨(ih h).1, List.subset_cons_of_subset c (ih h).2⟩
      · next hc =>
        obtain ⟨first, others, hcut⟩ := List.exists_cons_of_ne_nil (List.splitOnP_ne_nil p t)
        rw [hcut] at h
        rcases List.mem_cons.mp h with rfl | h
        · obtain ⟨hfirst, hsubset⟩ := ih (hcut ▸ List.mem_cons_self)
          refine ⟨List.forall_mem_cons.mpr ⟨?_, hfirst⟩, List.cons_subset_cons c hsubset⟩
          simpa using hc
        · obtain ⟨hother, hsubset⟩ := ih (hcut ▸ List.mem_cons_of_mem first h)
          exact ⟨hother, List.subset_cons_of_subset c hsubset⟩

/-- A word is not empty and holds no blank. -/
lemma of_mem_words (h : w ∈ words t) : w ≠ [] ∧ ∀ c ∈ w, isBlank c = false := by
  obtain ⟨hmem, hne⟩ := List.mem_filter.mp h
  exact ⟨by simpa [nonempty] using hne, (mem_splitOnP hmem).1⟩

/-- **Words end at a blank.** -/
theorem words_append_blank_cons (hc : isBlank c = true) (s t : Text) :
    words (s ++ c :: t) = words s ++ words t := by
  simp only [words, List.splitOnP_append_cons s t hc, List.filter_append]

lemma words_blank_append {pad : Text} (hpad : ∀ c ∈ pad, isBlank c = true) (t : Text) :
    words (pad ++ t) = words t := by
  induction pad with
  | nil => rfl
  | cons c pad ih =>
      obtain ⟨hc, hpad⟩ := List.forall_mem_cons.mp hpad
      exact (words_append_blank_cons hc [] (pad ++ t)).trans (ih hpad)

lemma words_append_blank {pad : Text} (hpad : ∀ c ∈ pad, isBlank c = true) (t : Text) :
    words (t ++ pad) = words t := by
  cases pad with
  | nil => rw [List.append_nil]
  | cons c pad =>
      obtain ⟨hc, hpad⟩ := List.forall_mem_cons.mp hpad
      have hnone : words (pad ++ []) = [] := words_blank_append hpad []
      rw [List.append_nil] at hnone
      rw [words_append_blank_cons hc, hnone, List.append_nil]

@[simp] theorem words_trim (t : Text) : words (trim t) = words t := by
  obtain ⟨front, back, ht, hblank, -⟩ := trim_spec t
  obtain ⟨hfront, hback⟩ := List.forall_mem_append.mp hblank
  conv_rhs => rw [ht]
  rw [words_append_blank hback, words_blank_append hfront]

lemma words_of_not_blank (hne : w ≠ []) (h : ∀ c ∈ w, isBlank c = false) : words w = [w] := by
  rw [words, List.splitOnP_eq_singleton h]
  simp [nonempty, hne]

/-! ## Texts made of words -/

/-- Words in order with a gap between each two, made of blanks of `p`. -/
inductive GapJoined (p : Char → Prop) : List Text → Text → Prop
  | word (w : Text) : GapJoined p [w] w
  | cons (w : Text) {gap : Text} {ws : List Text} {t : Text} (hne : gap ≠ [])
    (hgap : ∀ c ∈ gap, isBlank c = true ∧ p c) (h : GapJoined p ws t) :
    GapJoined p (w :: ws) (w ++ (gap ++ t))

/-- A trimmed text is one word, or its first word, a gap, and a trimmed text. -/
lemma exists_first_word (hne : t ≠ []) (ht : Trimmed t) :
    (∀ c ∈ t, isBlank c = false) ∨
    ∃ w gap others, t = w ++ (gap ++ others) ∧ w ≠ [] ∧ (∀ c ∈ w, isBlank c = false) ∧
      gap ≠ [] ∧ (∀ c ∈ gap, isBlank c = true) ∧ others ≠ [] ∧ Trimmed others := by
  have hclash : ∀ {u : Text}, u ≠ [] → (∀ c ∈ u.head?, isBlank c = true) →
      ¬ ∀ c ∈ u.head?, isBlank c = false := by
    intro u hu hblank hnot
    obtain ⟨c, u, rfl⟩ := List.exists_cons_of_ne_nil hu
    cases (hblank c rfl).symm.trans (hnot c rfl)
  obtain ⟨w, rest, rfl, hw, hrest⟩ : ∃ w rest, t = w ++ rest ∧
      (∀ c ∈ w, isBlank c = false) ∧ ∀ c ∈ rest.head?, isBlank c = true := by
    refine ⟨t.takeWhile (!isBlank ·), t.dropWhile (!isBlank ·),
      List.takeWhile_append_dropWhile.symm, fun c hc => ?_, fun c hc => ?_⟩
    · simpa using List.mem_takeWhile_imp hc
    · simpa using head_of_dropWhile _ t c hc
  have hwne : w ≠ [] := by
    rintro rfl
    exact hclash hne hrest ht.head
  obtain ⟨gap, others, rfl, hgap, hothers⟩ : ∃ gap others, rest = gap ++ others ∧
      (∀ c ∈ gap, isBlank c = true) ∧ ∀ c ∈ others.head?, isBlank c = false :=
    ⟨rest.takeWhile isBlank, rest.dropWhile isBlank, List.takeWhile_append_dropWhile.symm,
      fun c hc => List.mem_takeWhile_imp hc, head_of_dropWhile isBlank rest⟩
  rcases List.eq_nil_or_concat' others with rfl | ⟨front, last, rfl⟩
  · left
    -- a gap at the end would be a blank there
    rcases List.eq_nil_or_concat' gap with rfl | ⟨front, last, rfl⟩
    · simpa using hw
    · have hlast := ht.last last (by simp)
      rw [hgap last (by simp)] at hlast
      cases hlast
  · right
    have hgapne : gap ≠ [] := by
      rintro rfl
      exact hclash (by simp) hrest hothers
    refine ⟨w, gap, front ++ [last], rfl, hwne, hw, hgapne, hgap, by simp, hothers, ?_⟩
    simpa using ht.last

/-- **A trimmed text is its words with gaps between them.** -/
theorem gapJoined_words {p : Char → Prop} (hp : ∀ c ∈ t, p c) (hne : t ≠ []) (ht : Trimmed t) :
    GapJoined p (words t) t := by
  induction hn : t.length using Nat.strongRecOn generalizing t with
  | ind n ih =>
      rcases exists_first_word hne ht with
        hword | ⟨w, gap, others, rfl, hwne, hw, hgapne, hgap, hothers, htrim⟩
      · rw [words_of_not_blank hne hword]
        exact .word t
      · obtain ⟨c, gap, rfl⟩ := List.exists_cons_of_ne_nil hgapne
        obtain ⟨hc, hblank⟩ := List.forall_mem_cons.mp hgap
        rw [List.forall_mem_append, List.forall_mem_append] at hp
        have hwords : words (w ++ (c :: gap ++ others)) = w :: words others := by
          rw [List.cons_append, words_append_blank_cons hc, words_of_not_blank hwne hw,
            words_blank_append hblank, List.singleton_append]
        have hlt : others.length < n := by
          simp at hn
          omega
        rw [hwords]
        exact .cons w hgapne (fun d hd => ⟨hgap d hd, hp.2.1 d hd⟩)
          (ih others.length hlt hp.2.2 hothers htrim rfl)

end TargetPicker.Text
