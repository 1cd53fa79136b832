import Mathlib.Data.List.DropRight
import Mathlib.Data.List.TakeWhile
import Mathlib.Tactic.Common
import TargetPicker.Text.Blank

/-!
# Trimming

`trim` is stated by what it leaves: the text is cut into a front, a middle and a back, the front
and the back are blank, and the middle neither starts nor ends with a blank (`trim_spec`).  That
determines the middle (`trim_eq_of_trimmed`), so the texts that `trim` returns are exactly the ones
it leaves alone (`trim_eq_self_iff`), trimming twice is trimming once (`trim_trim`), and blanks that
are put at either end make no difference (`trim_blank_append`, `trim_append_blank`).

Wherever a line is cut up, what `trim` returns holds only characters of its argument
(`trim_subset`).
-/

namespace TargetPicker.Text

/-- **The property `White_Space`**, code point by code point. -/
def whiteSpace : List Nat :=
  [0x09, 0x0A, 0x0B, 0x0C, 0x0D, 0x20, 0x85, 0xA0, 0x1680, 0x2000, 0x2001, 0x2002, 0x2003,
    0x2004, 0x2005, 0x2006, 0x2007, 0x2008, 0x2009, 0x200A, 0x2028, 0x2029, 0x202F, 0x205F,
    0x3000]

lemma isBlank_iff (c : Char) : isBlank c = true ↔ c.toNat ∈ whiteSpace := by
  simp only [isBlank, whiteSpace, Bool.or_eq_true, Bool.and_eq_true, decide_eq_true_eq,
    beq_iff_eq, List.mem_cons, List.not_mem_nil, or_false]
  omega

/-- No blank at either end. -/
structure Trimmed (t : Text) : Prop where
  head : ∀ c ∈ t.head?, isBlank c = false
  last : ∀ c ∈ t.getLast?, isBlank c = false

/-- `trimEnd` is the library's `rdropWhile`. -/
lemma trimEnd_eq_rdropWhile (t : Text) : trimEnd t = t.rdropWhile isBlank := rfl

lemma dropWhile_of_head {p : Char → Bool} {t : Text} (h : ∀ c ∈ t.head?, p c = false) :
    t.dropWhile p = t := by
  cases t with
  | nil => rfl
  | cons c t => simp [h c rfl]

lemma rdropWhile_of_last {p : Char → Bool} {t : Text} (h : ∀ c ∈ t.getLast?, p c = false) :
    t.rdropWhile p = t := by
  rw [List.rdropWhile_eq_self_iff]
  intro hne
  simp [h _ (List.getLast?_eq_getLast_of_ne_nil hne)]

lemma head_of_dropWhile (p : Char → Bool) (t : Text) :
    ∀ c ∈ (t.dropWhile p).head?, p c = false := by
  intro c hc
  have h := List.head?_dropWhile_not p t
  rw [Option.mem_def] at hc
  rwa [hc] at h

lemma last_of_rdropWhile (p : Char → Bool) (t : Text) :
    ∀ c ∈ (t.rdropWhile p).getLast?, p c = false := by
  intro c hc
  have hne : t.rdropWhile p ≠ [] := by
    intro h
    simp [h] at hc
  have hlast : (t.rdropWhile p).getLast hne = c := by
    rw [List.getLast?_eq_getLast_of_ne_nil hne] at hc
    exact Option.some.inj hc
  have h := List.rdropWhile_last_not p t hne
  rw [hlast] at h
  simpa using h

/-- Dropping at the end keeps the head, as long as anything is left. -/
lemma head_of_prefix {s t : Text} (h : s <+: t) {p : Char → Bool}
    (ht : ∀ c ∈ t.head?, p c = false) : ∀ c ∈ s.head?, p c = false := by
  obtain ⟨r, rfl⟩ := h
  intro c hc
  cases s with
  | nil => simp at hc
  | cons d s => exact ht c (by simpa using hc)

theorem trimmed_trim (t : Text) : Trimmed (trim t) := by
  refine ⟨?_, last_of_rdropWhile isBlank _⟩
  exact head_of_prefix (List.rdropWhile_prefix isBlank _) (head_of_dropWhile isBlank t)

/-- The texts that `trim` leaves alone are the ones without blanks at their ends. -/
theorem trim_eq_self_iff {t : Text} : trim t = t ↔ Trimmed t := by
  constructor
  · intro h
    rw [← h]
    exact trimmed_trim t
  · intro h
    rw [trim, trimStart, dropWhile_of_head h.head, trimEnd_eq_rdropWhile,
      rdropWhile_of_last h.last]

@[simp] theorem trim_trim (t : Text) : trim (trim t) = trim t :=
  trim_eq_self_iff.mpr (trimmed_trim t)

@[simp] lemma trim_nil : trim [] = [] := rfl

/-- **What `trim` removes**: blanks only, at both ends, and as many as there are. -/
theorem trim_spec (t : Text) :
    ∃ front back, t = front ++ trim t ++ back ∧ (∀ c ∈ front ++ back, isBlank c = true) ∧
      Trimmed (trim t) := by
  have hfront : t = t.takeWhile isBlank ++ t.dropWhile isBlank :=
    List.takeWhile_append_dropWhile.symm
  have hback : t.dropWhile isBlank
      = trim t ++ (t.dropWhile isBlank).rtakeWhile isBlank :=
    List.rdropWhile_append_rtakeWhile.symm
  refine ⟨t.takeWhile isBlank, (t.dropWhile isBlank).rtakeWhile isBlank, ?_, ?_, trimmed_trim t⟩
  · rw [List.append_assoc, ← hback, ← hfront]
  · intro c hc
    rcases List.mem_append.mp hc with hc | hc
    · exact List.mem_takeWhile_imp hc
    · exact List.mem_rtakeWhile_imp hc

/-- **What is left is determined**: cut off blanks until neither end is one. -/
theorem trim_eq_of_trimmed {front middle back : Text} (hfront : ∀ c ∈ front, isBlank c = true)
    (hback : ∀ c ∈ back, isBlank c = true) (h : Trimmed middle) :
    trim (front ++ middle ++ back) = middle := by
  rw [trim, trimStart, List.append_assoc, List.dropWhile_append_of_pos hfront,
    trimEnd_eq_rdropWhile]
  cases middle with
  | nil =>
      have hnone : back.dropWhile isBlank = [] := List.dropWhile_eq_nil_iff.mpr hback
      rw [List.nil_append, hnone]
      rfl
  | cons c middle =>
      have hstart : (c :: middle ++ back).dropWhile isBlank = c :: middle ++ back := by
        rw [List.cons_append, List.dropWhile_cons_of_neg (by simp [h.head c rfl])]
      have hback' : ∀ d ∈ back.reverse, isBlank d = true := fun d hd =>
        hback d (List.mem_reverse.mp hd)
      rw [hstart, List.rdropWhile, List.reverse_append, List.dropWhile_append_of_pos hback']
      exact rdropWhile_of_last h.last

/-- Blanks in front make no difference. -/
lemma trim_blank_append {pad : Text} (hpad : ∀ c ∈ pad, isBlank c = true) (t : Text) :
    trim (pad ++ t) = trim t := by
  obtain ⟨front, back, ht, hblank, htrim⟩ := trim_spec t
  rw [List.forall_mem_append] at hblank
  have hfront : ∀ c ∈ pad ++ front, isBlank c = true :=
    List.forall_mem_append.mpr ⟨hpad, hblank.1⟩
  calc trim (pad ++ t)
      = trim (pad ++ front ++ trim t ++ back) := by
        conv_lhs => rw [ht]
        simp only [List.append_assoc]
    _ = trim t := trim_eq_of_trimmed hfront hblank.2 htrim

/-- Blanks behind make no difference. -/
lemma trim_append_blank {pad : Text} (hpad : ∀ c ∈ pad, isBlank c = true) (t : Text) :
    trim (t ++ pad) = trim t := by
  obtain ⟨front, back, ht, hblank, htrim⟩ := trim_spec t
  rw [List.forall_mem_append] at hblank
  have hback : ∀ c ∈ back ++ pad, isBlank c = true :=
    List.forall_mem_append.mpr ⟨hblank.2, hpad⟩
  calc trim (t ++ pad)
      = trim (front ++ trim t ++ (back ++ pad)) := by
        conv_lhs => rw [ht]
        simp only [List.append_assoc]
    _ = trim t := trim_eq_of_trimmed hblank.1 hback htrim

lemma trim_subset (t : Text) : trim t ⊆ t := by
  obtain ⟨front, back, ht, -, -⟩ := trim_spec t
  intro c hc
  rw [ht]
  simp [hc]

end TargetPicker.Text
