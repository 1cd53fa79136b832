import Mathlib.Data.List.Forall2
import Mathlib.Tactic.Common
import TargetPicker.Proofs.Makefile.DecodedContent
import TargetPicker.Proofs.Makefile.DependencyNames
import TargetPicker.Proofs.Makefile.Joining

/-!
# Blanks at the ends of lines

Blanks at the end of a line change nothing in the makefile, whatever the line is, and so the ends of
lines may be written with carriage returns or without (`parseBytes_trailing_blanks`).

Each kind of line loses them in another place.

* The text after a directive or an operator is trimmed, and so is a command.
* The prerequisites of a rule are kept as they stand.  The names in them are cut out later, and no
  blank at the end makes one (`dependencyNames_append_blank`).
* A line of no form stays one: what marks a form off is a character that is not blank, so it stood
  before the blanks already (`LineForm.exists_of_text_eq_append`).

There is **one exception**: a tab on an empty line makes a recipe line of it.  `Text.Padded` leaves
it out.  The last carriage return before a line feed never reaches the line, and with it or without
it the line is padded (`padded_decode`).
-/

namespace TargetPicker

open ReadEvent (lineFeed carriageReturn)
open Text

/-! ## One line -/

namespace LineForm

/-- The form with a text at its end. -/
def append (pad : Text) : LineForm → LineForm
  | comment rest => comment (rest ++ pad)
  | directive name rest h => directive name (rest ++ pad) h
  | ruleHeader target prerequisites h => ruleHeader target (prerequisites ++ pad) h
  | simple name value h => simple name (value ++ pad) h
  | expanded name spaced value h => expanded name spaced (value ++ pad) h

lemma text_append (pad : Text) (f : LineForm) : (f.append pad).text = f.text ++ pad := by
  cases f <;> simp [append, text]

/-- A character that is not blank stands before all padding. -/
lemma exists_of_append_eq {pad : Text} (hpad : ∀ c ∈ pad, isBlank c = true) {sign : Char}
    (hsign : isBlank sign = false) {front rest t : Text} (h : front ++ sign :: rest = t ++ pad) :
    ∃ rest', t = front ++ sign :: rest' := by
  have hmem : sign ∉ pad := by
    intro hmem
    rw [hpad sign hmem] at hsign
    cases hsign
  rcases List.append_eq_append_iff.mp h with ⟨middle, rfl, hmiddle⟩ | ⟨middle, -, rfl⟩
  · cases middle with
    | nil =>
        rw [List.nil_append] at hmiddle
        exact absurd (hmiddle ▸ List.mem_cons_self) hmem
    | cons c rest' =>
        obtain ⟨rfl, -⟩ := List.cons.inj hmiddle
        exact ⟨rest', rfl⟩
  · simp at hmem

/-- **A padded form was a form** before. -/
theorem exists_of_text_eq_append {pad : Text} (hpad : ∀ c ∈ pad, isBlank c = true) {g : LineForm}
    {t : Text} (h : g.text = t ++ pad) : ∃ f : LineForm, f.text = t := by
  cases g with
  | comment rest =>
      have hsplit : [] ++ '#' :: rest = t ++ pad := h
      obtain ⟨rest', rfl⟩ := exists_of_append_eq hpad (by decide) hsplit
      exact ⟨comment rest', rfl⟩
  | directive name rest hname =>
      have hsplit : ('.' :: name) ++ ':' :: rest = t ++ pad := h
      obtain ⟨rest', rfl⟩ := exists_of_append_eq hpad (by decide) hsplit
      exact ⟨directive name rest' hname, rfl⟩
  | ruleHeader target prerequisites htarget =>
      obtain ⟨rest', rfl⟩ := exists_of_append_eq hpad (by decide) h
      exact ⟨ruleHeader target rest' htarget, rfl⟩
  | simple name value hname =>
      have hsplit : (name ++ [' ', ':']) ++ '=' :: value = t ++ pad := by
        rw [← h]
        simp [text]
      obtain ⟨rest', rfl⟩ := exists_of_append_eq hpad (by decide) hsplit
      exact ⟨simple name rest' hname, by simp [text]⟩
  | expanded name spaced value hname =>
      have hsplit : (name ++ space spaced) ++ '=' :: value = t ++ pad := by
        rw [← h]
        simp [text]
      obtain ⟨rest', rfl⟩ := exists_of_append_eq hpad (by decide) hsplit
      exact ⟨expanded name spaced rest' hname, by simp [text]⟩

end LineForm

namespace LineKind

/-- The kind with a text behind the prerequisites, the one part that is not trimmed. -/
def append (pad : Text) : LineKind → LineKind
  | ruleHeader target prerequisites => ruleHeader target (prerequisites ++ pad)
  | k => k

/-- **Padding a line** changes its kind behind the prerequisites only. -/
theorem ofText_append_blank {pad : Text} (hpad : ∀ c ∈ pad, isBlank c = true) (t : Text) :
    ofText (t ++ pad) = (ofText t).append pad := by
  by_cases h : ∃ f : LineForm, f.text = t
  · obtain ⟨f, rfl⟩ := h
    rw [← LineForm.text_append, ofText_text, ofText_text]
    cases f <;> simp only [LineForm.append, LineForm.kind, append, trim_append_blank hpad]
  · have hpadded : ¬ ∃ g : LineForm, g.text = t ++ pad := by
      rintro ⟨g, hg⟩
      exact h (LineForm.exists_of_text_eq_append hpad hg)
    rw [ofText_eq_unrecognized_iff.mpr h, ofText_eq_unrecognized_iff.mpr hpadded]
    rfl

end LineKind

/-- The tabs in front are blanks, so the command is the line without its outer blanks. -/
lemma recipeCommand?_eq (line : Text) :
    recipeCommand? line = if line.head? = some '\t' then some (trim line) else none := by
  have htrim : trim (line.dropWhile (· == '\t')) = trim line := by
    have htabs : ∀ c ∈ line.takeWhile (· == '\t'), isBlank c = true := by
      intro c hc
      have htab : c = '\t' := by simpa using List.mem_takeWhile_imp hc
      rw [htab]
      decide
    conv_rhs => rw [← List.takeWhile_append_dropWhile (p := (· == '\t')) (l := line)]
    rw [trim_blank_append htabs]
  unfold recipeCommand?
  split
  · rw [List.head?_cons, if_pos rfl, htrim]
  · next h =>
    rw [if_neg]
    intro hhead
    obtain ⟨rest, rfl⟩ := List.head?_eq_some_iff.mp hhead
    exact h rest rfl

/-- **A line with blanks put at its end**, where an empty line gets no tab. -/
def Text.Padded (t t' : Text) : Prop :=
  ∃ pad, t' = t ++ pad ∧ (∀ c ∈ pad, isBlank c = true) ∧ (t = [] → pad.head? ≠ some '\t')

namespace Text.Padded

lemma refl (t : Text) : Padded t t := ⟨[], by simp⟩

variable {t t' : Text}

lemma recipeCommand?_eq (h : Padded t t') : recipeCommand? t' = recipeCommand? t := by
  obtain ⟨pad, rfl, hpad, htab⟩ := h
  rw [TargetPicker.recipeCommand?_eq, TargetPicker.recipeCommand?_eq, trim_append_blank hpad]
  cases t with
  | nil => rw [List.nil_append, if_neg (htab rfl), if_neg (by simp)]
  | cons c t => rfl

/-- Padding does not change what a line defines. -/
lemma definition?_eq (identifier : Text) (h : Padded t t') (n : ℕ) :
    Line.definition? identifier ⟨n, t'⟩ = Line.definition? identifier ⟨n, t⟩ := by
  obtain ⟨pad, rfl, hpad, -⟩ := h
  unfold Line.definition?
  dsimp only
  rw [LineKind.ofText_append_blank hpad]
  cases LineKind.ofText t <;> rfl

end Text.Padded

/-! ## Lines -/

namespace Line

lemma command?_padded {t t' : Text} (h : t.Padded t') (n : ℕ) :
    command? ⟨n, t'⟩ = command? ⟨n, t⟩ := h.recipeCommand?_eq

lemma leadingCommands_padded {ts ts' : List Text} (h : List.Forall₂ Text.Padded ts ts') (n : ℕ) :
    leadingCommands (numberedFrom n ts') = leadingCommands (numberedFrom n ts) := by
  induction h generalizing n with
  | nil => rfl
  | @cons t t' ts ts' ht hts ih =>
      have hcommand := command?_padded ht n
      rw [numberedFrom_cons, numberedFrom_cons]
      cases h : command? ⟨n, t⟩ with
      | none =>
          rw [leadingCommands_cons_of_not h, leadingCommands_cons_of_not (hcommand.trans h)]
      | some command =>
          rw [leadingCommands_cons_of_command h,
            leadingCommands_cons_of_command (hcommand.trans h), ih]

end Line

/-- Padding does not change the rule that a header and its recipe make up. -/
lemma Rule.headed?_padded (identifier : Text) {t t' : Text} (ht : t.Padded t') {ts ts' : List Text}
    (hts : List.Forall₂ Text.Padded ts ts') (n : ℕ) :
    Rule.headed? identifier (⟨n, t'⟩ :: Line.numberedFrom (n + 1) ts')
      = Rule.headed? identifier (⟨n, t⟩ :: Line.numberedFrom (n + 1) ts) := by
  obtain ⟨pad, rfl, hpad, -⟩ := ht
  unfold Rule.headed?
  dsimp only
  rw [LineKind.ofText_append_blank hpad, Line.leadingCommands_padded hts]
  cases LineKind.ofText t with
  | ruleHeader target prerequisites =>
      dsimp only [LineKind.append]
      rw [dependencyNames_append_blank hpad]
  | _ => rfl

/-- **Padded lines make up the same makefile.** -/
theorem Makefile.ofLines_padded (identifier : Text) {ts ts' : List Text}
    (h : List.Forall₂ Text.Padded ts ts') (n : ℕ) :
    ofLines identifier (Line.numberedFrom n ts') = ofLines identifier (Line.numberedFrom n ts) := by
  induction h generalizing n with
  | nil => rfl
  | cons ht hts ih =>
      rw [Line.numberedFrom_cons, Line.numberedFrom_cons, ofLines_cons, ofLines_cons, ih,
        Rule.headed?_padded identifier ht hts, ht.definition?_eq]

/-! ## Contents -/

namespace Text

/-- What drops the last character drops it behind everything in front. -/
lemma dropLast?_append {c : Char} {pad : Text} (h : pad ≠ []) (t : Text) :
    dropLast? c (t ++ pad) = t ++ dropLast? c pad := by
  unfold dropLast?
  rw [List.getLast?_append_of_ne_nil _ h]
  split
  · rw [List.dropLast_append_of_ne_nil h]
  · rfl

lemma isPrefix_dropLast? (c : Char) (t : Text) : dropLast? c t <+: t := by
  unfold dropLast?
  split
  · exact List.dropLast_prefix t
  · exact List.prefix_rfl

lemma exists_dropLast?_append (c : Char) (t : Text) :
    ∃ dropped, t = dropLast? c t ++ dropped ∧ (dropped = [] ∨ dropped = [c]) := by
  unfold dropLast?
  split
  · next h =>
    have hlast : t.getLast? = some c := by simpa using h
    obtain ⟨front, rfl⟩ := List.getLast?_eq_some_iff.mp hlast
    exact ⟨[c], by simp, Or.inr rfl⟩
  · exact ⟨[], by simp, Or.inl rfl⟩

/-- **The text of a line with a line feed** is padded with the line.  Its carriage return is dropped
from the line as it was, and from the padding if that has one. -/
theorem padded_decode {pad : Text} {piece : Bytes} (hpad : ∀ c ∈ pad, isBlank c = true)
    (htab : piece ≠ [] ∨ pad.head? ≠ some '\t') :
    Padded (decode (dropLast? carriageReturn piece))
      (decode (dropLast? carriageReturn (piece ++ utf8 pad))) := by
  rw [decode_dropLast?, decode_dropLast?, decode_append_utf8]
  rcases eq_or_ne pad [] with rfl | hne
  · rw [List.append_nil]
    exact Padded.refl _
  · obtain ⟨dropped, ht, hdropped⟩ := exists_dropLast?_append '\r' (decode piece)
    refine ⟨dropped ++ dropLast? '\r' pad, ?_, ?_, ?_⟩
    · rw [dropLast?_append hne, ← List.append_assoc, ← ht]
    · have hreturn : ∀ c ∈ dropped, isBlank c = true := by
        rcases hdropped with rfl | rfl
        · exact List.forall_mem_nil _
        · exact List.forall_mem_singleton.mpr rfl
      have hrest : ∀ c ∈ dropLast? '\r' pad, isBlank c = true := fun c hc =>
        hpad c ((isPrefix_dropLast? '\r' pad).subset hc)
      exact List.forall_mem_append.mpr ⟨hreturn, hrest⟩
    · intro hempty
      rcases hdropped with rfl | rfl
      · -- nothing was decoded and nothing dropped, so the line held no byte
        have hpiece : piece = [] := by
          by_contra hne
          rw [hempty] at ht
          exact decode_ne_nil hne ht
        intro hhead
        obtain ⟨rest, hrest⟩ := List.head?_eq_some_iff.mp hhead
        obtain ⟨more, hmore⟩ := isPrefix_dropLast? '\r' pad
        refine htab.resolve_left (not_not_intro hpiece) ?_
        rw [← hmore, show dropLast? '\r' pad = '\t' :: rest from hrest]
        rfl
      · simp

end Text

namespace Bytes

/-- The content with `n` more carriage returns before every line feed; one of them makes the line
endings of the other style. -/
def withReturns (n : ℕ) (content : Bytes) : Bytes :=
  content.flatMap fun b =>
    if b = lineFeed then List.replicate n carriageReturn ++ [lineFeed] else [b]

lemma forall₂_padded_refl (ts : List Text) : List.Forall₂ Text.Padded ts ts :=
  List.forall₂_same.mpr fun t _ => Text.Padded.refl t

lemma lineFeed_not_mem_utf8 {pad : Text} (h : '\n' ∉ pad) : lineFeed ∉ utf8 pad :=
  fun hmem => h (mem_of_mem_utf8 (by decide) hmem)

/-- The lines of a content, with blanks put at the end of one of them. -/
lemma forall₂_lines_insert {before piece after : Bytes} {pad : Text}
    (hbefore : before = [] ∨ before.getLast? = some lineFeed) (hpiece : lineFeed ∉ piece)
    (hafter : after.head? = some lineFeed ∨ after = [] ∧ piece ≠ [])
    (hpad : ∀ c ∈ pad, isBlank c = true ∧ c ≠ '\n') (htab : piece ≠ [] ∨ pad.head? ≠ some '\t') :
    List.Forall₂ Text.Padded (lines (before ++ piece ++ after))
      (lines (before ++ piece ++ utf8 pad ++ after)) := by
  have hblank : ∀ c ∈ pad, isBlank c = true := fun c hc => (hpad c hc).1
  have hpadded : lineFeed ∉ piece ++ utf8 pad := by
    rw [List.mem_append]
    exact not_or.mpr ⟨hpiece, lineFeed_not_mem_utf8 fun hmem => (hpad '\n' hmem).2 rfl⟩
  simp only [List.append_assoc, lines_append before _ hbefore]
  refine List.rel_append (forall₂_padded_refl _) ?_
  rw [← List.append_assoc]
  rcases hafter with hafter | ⟨rfl, hne⟩
  · obtain ⟨rest, rfl⟩ := List.head?_eq_some_iff.mp hafter
    rw [lines_line hpiece, lines_line hpadded]
    exact .cons (padded_decode hblank htab) (forall₂_padded_refl _)
  · rw [List.append_nil, List.append_nil, lines_unterminated hne hpiece,
      lines_unterminated (List.append_ne_nil_of_left_ne_nil hne _) hpadded, decode_append_utf8]
    exact .cons ⟨pad, rfl, hblank, fun h => absurd h (decode_ne_nil hne)⟩ .nil

lemma withReturns_of_not_mem {piece : Bytes} (h : lineFeed ∉ piece) (n : ℕ) :
    withReturns n piece = piece := by
  rw [withReturns, List.flatMap_congr (g := fun b => [b]), List.flatMap_singleton']
  intro b hb
  rw [if_neg]
  rintro rfl
  exact h hb

lemma withReturns_line {piece : Bytes} (h : lineFeed ∉ piece) (n : ℕ) (rest : Bytes) :
    withReturns n (piece ++ lineFeed :: rest)
      = piece ++ utf8 (List.replicate n '\r') ++ lineFeed :: withReturns n rest := by
  have hreturns : utf8 (List.replicate n '\r') = List.replicate n carriageReturn := by
    rw [utf8, List.flatMap_replicate]
    exact List.flatten_replicate_singleton
  have hpiece := withReturns_of_not_mem h n
  unfold withReturns at hpiece ⊢
  rw [List.flatMap_append, hpiece, List.flatMap_cons, if_pos rfl, hreturns]
  simp only [List.append_assoc, List.singleton_append]

/-- The lines of a content, with carriage returns before every line feed. -/
lemma forall₂_lines_withReturns (n : ℕ) (content : Bytes) :
    List.Forall₂ Text.Padded (lines content) (lines (withReturns n content)) := by
  induction content using lineInduction with
  | nil => exact .nil
  | unterminated piece hne hpiece =>
      rw [withReturns_of_not_mem hpiece]
      exact forall₂_padded_refl _
  | line piece rest hpiece ih =>
      have hblank : ∀ c ∈ List.replicate n '\r', isBlank c = true := by
        intro c hc
        rw [List.eq_of_mem_replicate hc]
        decide
      have htab : (List.replicate n '\r').head? ≠ some '\t' := by
        rw [List.head?_replicate]
        split <;> simp
      have hpadded : lineFeed ∉ piece ++ utf8 (List.replicate n '\r') := by
        rw [List.mem_append]
        exact not_or.mpr ⟨hpiece, lineFeed_not_mem_utf8 (by simp)⟩
      rw [withReturns_line hpiece, lines_line hpiece, lines_line hpadded]
      exact .cons (padded_decode hblank (Or.inr htab)) ih

end Bytes

namespace Makefile

/-- **Blanks at the ends of lines do not matter.**  A makefile stays the same if blanks other than
line feeds are put at the end of a line, unless they make a recipe line of an empty one, and if the
line endings get any number of carriage returns. -/
theorem parseBytes_trailing_blanks (identifier : Text) :
    (∀ (before piece after : Bytes) (pad : Text),
      (before = [] ∨ before.getLast? = some lineFeed) → lineFeed ∉ piece →
      (after.head? = some lineFeed ∨ after = [] ∧ piece ≠ []) →
      (∀ c ∈ pad, isBlank c = true ∧ c ≠ '\n') → (piece ≠ [] ∨ pad.head? ≠ some '\t') →
      ∃ m, (parseBytes identifier (before ++ piece ++ after)).result = .ok m ∧
        (parseBytes identifier (before ++ piece ++ utf8 pad ++ after)).result = .ok m) ∧
    ∀ (content : Bytes) (n : ℕ), ∃ m, (parseBytes identifier content).result = .ok m ∧
      (parseBytes identifier (content.withReturns n)).result = .ok m := by
  have hsame : ∀ {content padded : Bytes},
      List.Forall₂ Text.Padded (Bytes.lines content) (Bytes.lines padded) →
      ∃ m, (parseBytes identifier content).result = .ok m ∧
        (parseBytes identifier padded).result = .ok m := by
    intro content padded h
    refine ⟨_, parseBytes_result identifier content, ?_⟩
    rw [parseBytes_result, ofLines_padded identifier h]
  refine ⟨?_, fun content n => hsame (Bytes.forall₂_lines_withReturns n content)⟩
  intro before piece after pad hbefore hpiece hafter hpad htab
  exact hsame (Bytes.forall₂_lines_insert hbefore hpiece hafter hpad htab)

/-- A next line character, a tab and a carriage return behind a command that ends inside a
character. -/
theorem parseBytes_trailing_blanks_behind_command :
    (∀ c ∈ ['\u0085', '\t', '\r'], isBlank c = true ∧ c ≠ '\n') ∧
    (parseBytes [] (utf8 "all: lib\n".toList ++ (utf8 "\tcc ".toList ++ [0xE2, 0x80]) ++
        utf8 ['\u0085', '\t', '\r'] ++ utf8 "\nlib:\n".toList)).result
      = .ok
        { identifier := []
          rules :=
            [{ target := "all".toList, dependencies := ["lib".toList],
               body := ["cc ".toList ++ [replacement]], identifier := [], lineNumber := 1 },
             { target := "lib".toList, dependencies := [], body := [], identifier := [],
               lineNumber := 3 }]
          definitions := [] } := by
  have hpad : ∀ c ∈ ['\u0085', '\t', '\r'], isBlank c = true ∧ c ≠ '\n' := by
    rw [List.forall_mem_cons, List.forall_mem_cons, List.forall_mem_singleton]
    decide
  obtain ⟨m, hplain, hpadded⟩ := (parseBytes_trailing_blanks []).1 (utf8 "all: lib\n".toList)
    (utf8 "\tcc ".toList ++ [0xE2, 0x80]) (utf8 "\nlib:\n".toList) ['\u0085', '\t', '\r']
    (Or.inr (by decide +kernel)) (by decide +kernel) (Or.inl (by decide +kernel)) hpad
    (Or.inl (by decide +kernel))
  rw [parseBytes_result] at hplain
  exact ⟨hpad, hpadded.trans (hplain.symm.trans (congrArg Except.ok (by decide +kernel)))⟩

/-- The exception: a tab on the empty line below a rule is a command. -/
example : (parseBytes [] (utf8 "all:\n\n".toList)).result
    ≠ (parseBytes [] (utf8 "all:\n\t\n".toList)).result := by
  rw [parseBytes_result, parseBytes_result]
  decide +kernel

end Makefile

end TargetPicker
